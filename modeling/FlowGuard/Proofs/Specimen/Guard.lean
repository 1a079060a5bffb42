import FlowGuard.Proofs.Header
import FlowGuard.Proofs.Specimen.Calls
import FlowGuard.Proofs.Specimen.Mapped
import FlowGuard.Proofs.Table

/-!
Decoding undoes encoding: the header walk over a mapped specimen finds the guard block that was laid out, and
the table decodes to the functions that were given a hash, in the order of their calls.
-/

namespace FlowGuard.Specimen

open Bytes

def guardBlock (s : Specimen) : GuardBlock where
  checkPointer := 0
  dispatchPointer := 0
  table := s.tableAddress
  count := UInt64.ofNat s.slots.length
  flags := s.guardFlags

def declared (s : Specimen) : UInt32 :=
  s.declaredSize.getD (UInt32.ofNat (configSize s.width))

def walked (s : Specimen) : Except HeaderError GuardBlock :=
  if s.directoryCount ≤ Header.loadConfigIndex then .error (.directoryOutOfRange s.directoryCount)
  else if !s.hasLoadConfig then .error .directoryMissing
  else if s.declared.toNat < configSize s.width then .error (.guardTruncated s.declared (configSize s.width))
  else .ok s.guardBlock

def tableEnd (s : Specimen) : Nat :=
  tableRva + s.slots.length * (4 + s.metadataSize.toNat)

def directoryOffset (w : Width) : Nat :=
  ntOffset + (w.directoriesOffset + Header.loadConfigIndex.toNat * Header.directoryEntrySize)

theorem lacks_directory_iff (s : Specimen) :
    s.directoryCount ≤ Header.loadConfigIndex ↔ ¬11 ≤ s.directoryCount.toNat := by
  rw [UInt32.le_iff_toNat_le, Nat.not_le]
  exact Nat.lt_succ_iff.symm

theorem toNat_guardFlags {s : Specimen} (h : s.WellMade) :
    s.guardFlags.toNat = s.flags.toNat + s.metadataSize.toNat * 2 ^ 28 := by
  have hm := h.metadata
  have hshift : (s.metadataSize.toUInt32 <<< 28).toNat = 2 ^ 28 * s.metadataSize.toNat := by
    rw [UInt32.toNat_shiftLeft, UInt8.toNat_toUInt32, Nat.shiftLeft_eq]
    show s.metadataSize.toNat * 2 ^ 28 % 2 ^ 32 = _
    omega
  rw [guardFlags, UInt32.toNat_or, hshift, Nat.or_comm, ← Nat.two_pow_add_eq_or_of_lt h.flags]
  omega

theorem toNat_metadataSize_guardBlock {s : Specimen} (h : s.WellMade) :
    s.guardBlock.metadataSize.toNat = s.metadataSize.toNat := by
  have hf := h.flags
  show (s.guardFlags >>> 28).toNat = _
  rw [UInt32.toNat_shiftRight, toNat_guardFlags h, Nat.shiftRight_eq_div_pow]
  show (s.flags.toNat + s.metadataSize.toNat * 2 ^ 28) / 2 ^ 28 = _
  omega

/-- The metadata size does not touch the flag of modules with hashes. -/
theorem isEnabled_guardBlock (s : Specimen) :
    s.guardBlock.isEnabled = (s.flags &&& GuardBlock.enabledFlag != 0) := by
  have hflag : GuardBlock.enabledFlag.toNat = 2 ^ 23 := rfl
  have hshift : (s.metadataSize.toUInt32 <<< 28).toNat.testBit 23 = false := by
    rw [UInt32.toNat_shiftLeft, Nat.testBit_mod_two_pow, Nat.testBit_shiftLeft]
    simp
  have hmask : s.guardFlags &&& GuardBlock.enabledFlag = s.flags &&& GuardBlock.enabledFlag := by
    rw [← UInt32.toNat_inj, UInt32.toNat_and, UInt32.toNat_and, hflag, guardFlags, UInt32.toNat_or]
    apply Nat.eq_of_testBit_eq
    intro i
    rw [Nat.testBit_and, Nat.testBit_and, Nat.testBit_or, Nat.testBit_two_pow]
    by_cases hi : 23 = i
    · subst hi
      rw [hshift, Bool.or_false]
    · simp [hi]
  show (s.guardFlags &&& GuardBlock.enabledFlag != 0) = _
  rw [hmask]

section Walk

variable {s : Specimen} {m : Memory} {size : Nat} (h : s.Shows m size)

section Fields

include h

theorem Shows.readNat {offset count n : Nat} (hp : (offset, LittleEndian.encode count n) ∈ s.laidOut)
    (hn : n < 256 ^ count) (hfit : offset + count ≤ size) (hs : s.SparesBelow (offset + count)) :
    m.readNat (s.address offset) count = .ok n := by
  rw [Memory.readNat, h.read offset count hfit, Except.map,
    decode_part_of_mem s offset count n hp hn (Nat.le_trans hfit h.inside) hs]

theorem Shows.readUInt32 {offset n : Nat} (hp : long offset n ∈ s.laidOut) (hn : n < 2 ^ 32)
    (hfit : offset + 4 ≤ size) (hs : s.SparesBelow (offset + 4)) :
    m.readUInt32 (s.address offset) = .ok (UInt32.ofNat n) := by
  rw [Memory.readUInt32, h.readNat hp hn hfit hs]
  rfl

end Fields

variable (hspace : s.base.toNat + s.imageSize < spaceSize) (hbig : tableRva ≤ size)
include h hspace hbig

omit h hbig in
theorem fieldAt_address (offset field : Nat) (hfit : offset + field ≤ s.imageSize) :
    Header.fieldAt (s.address offset) field = .ok (s.address (offset + field)) := by
  have hf : (UInt64.ofNat field).toNat = field := by
    unfold spaceSize at hspace
    rw [UInt64.toNat_ofNat']
    omega
  rw [Header.fieldAt, Address.add?, toNat_address s offset (by omega), hf, if_pos (by omega)]
  rw [address_add]

omit hspace in
theorem ntHeaders_of_shows (hs : s.SparesBelow 0x40) :
    Header.ntHeaders m s.base = .ok (s.address ntOffset) := by
  have hp : long 0x3C ntOffset ∈ s.laidOut := by
    simp [laidOut, headerPatches, Header.ntOffsetField]
  have hr := h.readUInt32 hp (by decide) (Nat.le_trans (by decide) hbig) hs
  have ha : s.base + Header.ntOffsetField = s.address 0x3C := rfl
  rw [Header.ntHeaders, Memory.readInt32, ha, hr]
  rfl

omit hspace in
theorem directoryCount_of_shows (hs : s.SparesBelow 0x200) :
    m.readUInt32 (s.address (ntOffset + s.width.countOffset)) = .ok s.directoryCount := by
  have hcount : long (ntOffset + s.width.countOffset) s.directoryCount.toNat ∈ s.laidOut := by
    simp [laidOut, headerPatches]
  have hfront : 0x200 ≤ size := Nat.le_trans (by decide) hbig
  have hend : ntOffset + s.width.countOffset + 4 ≤ 0x200 := by cases s.width <;> decide
  rw [h.readUInt32 hcount s.directoryCount.toNat_lt (by omega) (hs.mono (by omega)), UInt32.ofNat_toNat]

theorem directory_of_few (hs : s.SparesBelow 0x200) (hn : s.directoryCount ≤ Header.loadConfigIndex) :
    Header.directory m (s.address ntOffset) s.width Header.loadConfigIndex =
      .error (.directoryOutOfRange s.directoryCount) := by
  have hinside := h.inside
  have hfront : 0x200 ≤ size := Nat.le_trans (by decide) hbig
  have hend : ntOffset + s.width.countOffset + 4 ≤ 0x200 := by cases s.width <;> decide
  simp [Header.directory, fieldAt_address hspace ntOffset s.width.countOffset (by omega), bind, Except.bind,
    directoryCount_of_shows h hbig hs, hn, throw, throwThe, MonadExceptOf.throw]

/-- Behind a sufficient count, the directory is what its two fields hold. -/
theorem directory_of_fields (hs : s.SparesBelow 0x200) (hn : 11 ≤ s.directoryCount.toNat)
    {rva bytes : UInt32} (hrva : m.readUInt32 (s.address (directoryOffset s.width)) = .ok rva)
    (hbytes : m.readUInt32 (s.address (directoryOffset s.width + 4)) = .ok bytes) :
    Header.directory m (s.address ntOffset) s.width Header.loadConfigIndex = .ok (rva, bytes) := by
  have hinside := h.inside
  have hfront : 0x200 ≤ size := Nat.le_trans (by decide) hbig
  have hcountEnd : ntOffset + s.width.countOffset + 4 ≤ 0x200 := by cases s.width <;> decide
  have hentryEnd : directoryOffset s.width + 8 ≤ 0x200 := by cases s.width <;> decide
  have hnext : s.address (directoryOffset s.width) + 4 = s.address (directoryOffset s.width + 4) :=
    address_add s _ 4
  have hmany : ¬s.directoryCount ≤ Header.loadConfigIndex := fun hfew => s.lacks_directory_iff.mp hfew hn
  have hentry : Header.fieldAt (s.address ntOffset)
      (s.width.directoriesOffset + Header.loadConfigIndex.toNat * Header.directoryEntrySize) =
        .ok (s.address (directoryOffset s.width)) :=
    fieldAt_address hspace _ _ (show directoryOffset s.width ≤ _ by omega)
  simp [Header.directory, fieldAt_address hspace ntOffset s.width.countOffset (by omega), hentry,
    Except.map, bind, Except.bind, pure, Except.pure, Cursor.uint32, Cursor.skip,
    directoryCount_of_shows h hbig hs, hmany, hrva, hnext, hbytes]

theorem directory_of_shows (hs : s.SparesBelow 0x200) (hc : s.hasLoadConfig = true)
    (hn : 11 ≤ s.directoryCount.toNat) :
    Header.directory m (s.address ntOffset) s.width Header.loadConfigIndex =
      .ok (UInt32.ofNat loadConfigRva, UInt32.ofNat (configSize s.width)) := by
  have hfront : 0x200 ≤ size := Nat.le_trans (by decide) hbig
  have hrva : long (directoryOffset s.width) loadConfigRva ∈ s.laidOut := by
    simp [laidOut, directoryPatches, hc, directoryOffset, Nat.add_assoc]
  have hsize : long (directoryOffset s.width + 4) (configSize s.width) ∈ s.laidOut := by
    simp [laidOut, directoryPatches, hc, directoryOffset, Nat.add_assoc]
  have hentryEnd : directoryOffset s.width + 8 ≤ 0x200 := by cases s.width <;> decide
  have hconfig : configSize s.width < 2 ^ 32 := by cases s.width <;> decide
  exact directory_of_fields h hspace hbig hs hn
    (h.readUInt32 hrva (by decide) (by omega) (hs.mono (by omega)))
    (h.readUInt32 hsize hconfig (by omega) (hs.mono (by omega)))

theorem loadConfigDirectory_of_shows (hs : s.SparesBelow 0x200) (hc : s.hasLoadConfig = true)
    (hn : 11 ≤ s.directoryCount.toNat) :
    Header.loadConfigDirectory m (s.address ntOffset) s.width =
      .ok (UInt32.ofNat loadConfigRva, UInt32.ofNat (configSize s.width)) := by
  have hrva : ¬UInt32.ofNat loadConfigRva = 0 := by decide
  have hsize : ¬UInt32.ofNat (configSize s.width) < 4 := by cases s.width <;> decide
  simp [Header.loadConfigDirectory, directory_of_shows h hspace hbig hs hc hn, bind, Except.bind, pure,
    Except.pure, hrva, hsize]

omit hspace hbig in
/-- A pointer of the layout, read with a cursor. -/
theorem pointer_of_shows {offset n : Nat} (hpart : part s.file offset s.width.pointerSize =
      LittleEndian.encode s.width.pointerSize n) (hn : n < 256 ^ s.width.pointerSize)
    (hfit : offset + s.width.pointerSize ≤ size) :
    Cursor.pointer ⟨m, s.address offset⟩ s.width =
      .ok (UInt64.ofNat n, ⟨m, s.address (offset + s.width.pointerSize)⟩) := by
  have hread : m.readNat (s.address offset) s.width.pointerSize = .ok n := by
    rw [Memory.readNat, h.read offset _ hfit, hpart, Except.map,
      LittleEndian.decode_encode_of_lt _ _ hn]
  have hnext := address_add s offset s.width.pointerSize
  cases hw : s.width with
  | bits32 =>
    rw [hw] at hread hn hnext
    have hword : (UInt32.ofNat n).toUInt64 = UInt64.ofNat n := by
      rw [← UInt64.toNat_inj, UInt32.toNat_toUInt64, UInt32.toNat_ofNat', UInt64.toNat_ofNat']
      simp only [Width.pointerSize] at hn
      omega
    simp only [Width.pointerSize] at hread hnext
    simp only [Cursor.pointer, Cursor.uint32, Memory.readUInt32, hread, Except.map, Cursor.skip, hword,
      Width.pointerSize, ← hnext]
    rfl
  | bits64 =>
    rw [hw] at hread hnext
    simp only [Width.pointerSize] at hread hnext
    simp only [Cursor.pointer, Cursor.uint64, Memory.readUInt64, hread, Except.map, Cursor.skip,
      Width.pointerSize, ← hnext]
    rfl

omit h hspace hbig in
/-- The five fields of the guard block in the file. -/
theorem guard_parts (hs : s.SparesBelow tableRva) :
    let size := s.width.pointerSize
    let start := loadConfigRva + s.width.guardOffset
    part s.file start size = LittleEndian.encode size 0 ∧
      part s.file (start + size) size = LittleEndian.encode size 0 ∧
      part s.file (start + size + size) size = LittleEndian.encode size s.tableAddress.toNat ∧
      part s.file (start + size + size + size) size = LittleEndian.encode size s.slots.length ∧
      part s.file (start + size + size + size + size) 4 = LittleEndian.encode 4 s.guardFlags.toNat := by
  intro size start
  have hlen : ∀ n, (LittleEndian.encode size n).length = size := LittleEndian.length_encode size
  have hp : (start, LittleEndian.encode size 0 ++ LittleEndian.encode size 0
      ++ LittleEndian.encode size s.tableAddress.toNat ++ LittleEndian.encode size s.slots.length
      ++ LittleEndian.encode 4 s.guardFlags.toNat) ∈ s.laidOut := by
    simp [laidOut, configPatches, start, size]
  have hend : start + (size + size + size + size + 4) ≤ tableRva := by
    show loadConfigRva + s.width.guardOffset + (s.width.pointerSize + s.width.pointerSize
      + s.width.pointerSize + s.width.pointerSize + 4) ≤ tableRva
    cases s.width <;> decide
  have hbig : tableRva ≤ s.imageSize := s.le_imageSize (by decide)
  have hblock := part_file_of_mem s _ hp
  simp only [List.length_append, hlen, LittleEndian.length_encode] at hblock
  have hfour := LittleEndian.length_encode 4 s.guardFlags.toNat
  obtain ⟨hfields, hflags⟩ := part_append s.file start (size + size + size + size) 4 _ _
    (by simp only [List.length_append, hlen]) hfour (hblock (by omega) (hs.mono hend))
  obtain ⟨hfields, hcount⟩ := part_append s.file start (size + size + size) size _ _
    (by simp only [List.length_append, hlen]) (hlen _) hfields
  obtain ⟨hfields, htable⟩ := part_append s.file start (size + size) size _ _
    (by simp only [List.length_append, hlen]) (hlen _) hfields
  obtain ⟨hcheck, hdispatch⟩ := part_append s.file start size size _ _ (hlen _) (hlen _) hfields
  simp only [← Nat.add_assoc] at hflags hcount htable
  exact ⟨hcheck, hdispatch, htable, hcount, hflags⟩

omit hspace in
theorem readBlock_of_shows (hs : s.SparesBelow tableRva)
    (htable : s.tableAddress.toNat < 256 ^ s.width.pointerSize)
    (hslots : s.slots.length < 256 ^ s.width.pointerSize) :
    Header.readBlock m s.width (s.address (loadConfigRva + s.width.guardOffset)) = .ok s.guardBlock := by
  obtain ⟨hcheck, hdispatch, htab, hcount, hflags⟩ := guard_parts hs
  have hend : loadConfigRva + s.width.guardOffset + s.width.pointerSize + s.width.pointerSize
      + s.width.pointerSize + s.width.pointerSize + 4 ≤ tableRva := by
    cases s.width <;> decide
  have hzero : 0 < 256 ^ s.width.pointerSize := Nat.pow_pos (by decide)
  have hread : m.readUInt32 (s.address (loadConfigRva + s.width.guardOffset + s.width.pointerSize
      + s.width.pointerSize + s.width.pointerSize + s.width.pointerSize)) = .ok s.guardFlags := by
    rw [Memory.readUInt32, Memory.readNat, h.read _ _ (by omega), hflags, Except.map,
      LittleEndian.decode_encode_of_lt _ _ s.guardFlags.toNat_lt, Except.map, UInt32.ofNat_toNat]
  simp only [Header.readBlock, bind, Except.bind, pure, Except.pure,
    pointer_of_shows h hcheck hzero (by omega),
    pointer_of_shows h hdispatch hzero (by omega),
    pointer_of_shows h htab htable (by omega),
    pointer_of_shows h hcount hslots (by omega), Cursor.uint32, hread, Except.map,
    UInt64.ofNat_toNat]
  rfl

omit hspace in
theorem declared_of_shows (hs : s.SparesBelow tableRva) :
    m.readUInt32 (s.address loadConfigRva) = .ok s.declared := by
  have hconfig : configSize s.width < 2 ^ 32 := by cases s.width <;> decide
  have hword : (s.declaredSize.map UInt32.toNat).getD (configSize s.width) = s.declared.toNat := by
    cases hd : s.declaredSize with
    | none => simpa [declared, hd, UInt32.toNat_ofNat'] using (Nat.mod_eq_of_lt hconfig).symm
    | some n => simp [declared, hd]
  have hp : long loadConfigRva s.declared.toNat ∈ s.laidOut := by
    simp [laidOut, configPatches, hword]
  rw [h.readUInt32 hp s.declared.toNat_lt (Nat.le_trans (by decide) hbig) (hs.mono (by decide)),
    UInt32.ofNat_toNat]

omit hspace in
theorem guardBlockOf_of_short (hs : s.SparesBelow tableRva)
    (hdeclared : s.declared.toNat < configSize s.width) :
    Header.guardBlockOf m s.width (s.address loadConfigRva) =
      .error (.guardTruncated s.declared (configSize s.width)) := by
  have hshort : s.declared.toNat < s.width.guardOffset + s.width.guardSize := hdeclared
  simp only [Header.guardBlockOf, declared_of_shows h hbig hs, Header.ofMemory_ok, bind, Except.bind, hshort,
    if_true, throw, throwThe, MonadExceptOf.throw]
  rfl

theorem guardBlockOf_of_shows (hs : s.SparesBelow tableRva) (hdeclared : configSize s.width ≤ s.declared.toNat)
    (htable : s.tableAddress.toNat < 256 ^ s.width.pointerSize)
    (hslots : s.slots.length < 256 ^ s.width.pointerSize) :
    Header.guardBlockOf m s.width (s.address loadConfigRva) = .ok s.guardBlock := by
  have hinside := h.inside
  have hguard : loadConfigRva + s.width.guardOffset ≤ tableRva := by cases s.width <;> decide
  have henough : ¬s.declared.toNat < s.width.guardOffset + s.width.guardSize := Nat.not_lt.mpr hdeclared
  simp only [Header.guardBlockOf, declared_of_shows h hbig hs, Header.ofMemory_ok, bind, Except.bind, henough,
    if_false, fieldAt_address hspace loadConfigRva s.width.guardOffset (by omega),
    readBlock_of_shows h hbig hs htable hslots]

omit h hspace hbig in
/-- Without a load configuration, nothing is laid out where its directory would be. -/
theorem gap_of_no_config (hc : s.hasLoadConfig = false) (p : Nat × List UInt8) (hp : p ∈ s.laidOut) :
    p.1 + p.2.length ≤ directoryOffset s.width ∨ directoryOffset s.width + 8 ≤ p.1 := by
  -- the layout with a load configuration differs in the two fields of its directory only
  let full : Specimen := { s with hasLoadConfig := true }
  let first := long (directoryOffset s.width) loadConfigRva
  let second := long (directoryOffset s.width + 4) (configSize s.width)
  let behind := s.sectionTablePatches ++ s.configPatches ++ slotPatches s.metadataSize.toNat tableRva s.slots
  have hfull : full.laidOut = s.headerPatches ++ ([first, second] ++ behind) := by
    have hfields : full.directoryPatches = [first, second] := by
      simp [directoryPatches, full, first, second, directoryOffset, Nat.add_assoc]
    simp only [laidOut, hfields, behind, List.append_assoc]
    rfl
  have hascends := full.ascends_laidOut
  rw [hfull] at hascends
  have hp : p ∈ s.headerPatches ∨ p ∈ behind := by
    simpa [laidOut, directoryPatches, hc, behind, List.append_assoc] using hp
  rcases hp with hp | hp
  · exact .inl (hascends.end_le p first hp (by simp))
  · rw [← List.append_assoc] at hascends
    exact .inr (hascends.end_le second p (by simp) hp)

theorem directory_of_no_config (hs : s.SparesBelow 0x200) (hc : s.hasLoadConfig = false)
    (hn : 11 ≤ s.directoryCount.toNat) :
    Header.directory m (s.address ntOffset) s.width Header.loadConfigIndex = .ok (0, 0) := by
  have hinside := h.inside
  have hfront : 0x200 ≤ size := Nat.le_trans (by decide) hbig
  have hentryEnd : directoryOffset s.width + 8 ≤ 0x200 := by cases s.width <;> decide
  have hzero (field : Nat) (hlo : directoryOffset s.width ≤ field) (hhi : field + 4 ≤ directoryOffset s.width + 8) :
      m.readUInt32 (s.address field) = .ok 0 := by
    rw [Memory.readUInt32, Memory.readNat, h.read field 4 (by omega), part_file_of_gap s field 4 (by omega)
      (hs.mono (by omega))]
    · rfl
    · intro p hp
      have := gap_of_no_config hc p hp
      omega
  exact directory_of_fields h hspace hbig hs hn (hzero _ (by omega) (by omega)) (hzero _ (by omega) (by omega))

theorem find_of_shows (hs : s.SparesBelow tableRva)
    (htable : s.tableAddress.toNat < 256 ^ s.width.pointerSize)
    (hslots : s.slots.length < 256 ^ s.width.pointerSize) :
    Header.find m s.base s.width = s.walked := by
  have hlow : s.SparesBelow 0x200 := hs.mono (by decide)
  have hconfig : loadConfigRva ≤ s.imageSize := s.le_imageSize (by decide)
  have hrva : (UInt32.ofNat loadConfigRva).toNat = loadConfigRva := rfl
  have hfield := fieldAt_address hspace 0 loadConfigRva (by omega)
  rw [address_zero, Nat.zero_add] at hfield
  simp only [Header.find, ntHeaders_of_shows h hbig (hs.mono (by decide)), Header.ofMemory_ok, bind, Except.bind]
  unfold walked
  by_cases hfew : s.directoryCount ≤ Header.loadConfigIndex
  · simp only [Header.loadConfigDirectory, directory_of_few h hspace hbig hlow hfew, bind, Except.bind, hfew, if_true]
  · rw [if_neg hfew]
    have hn : 11 ≤ s.directoryCount.toNat := by
      rwa [lacks_directory_iff, Decidable.not_not] at hfew
    cases hc : s.hasLoadConfig with
    | false =>
      simp [Header.loadConfigDirectory, directory_of_no_config h hspace hbig hlow hc hn, bind, Except.bind, throw,
        throwThe, MonadExceptOf.throw]
    | true =>
      simp only [loadConfigDirectory_of_shows h hspace hbig hlow hc hn, hrva, hfield, Bool.not_true,
        Bool.false_eq_true, if_false]
      by_cases hshort : s.declared.toNat < configSize s.width
      · rw [guardBlockOf_of_short h hbig hs hshort, if_pos hshort]
      · rw [guardBlockOf_of_shows h hspace hbig hs (Nat.not_lt.mp hshort) htable hslots, if_neg hshort]

omit h hspace hbig in
/-- The patches of one slot. -/
theorem mem_slotPatches (metadata offset : Nat) (slots : List (UInt32 × UInt8)) (i : Nat)
    (slot : UInt32 × UInt8) (hm : 0 < metadata) (hi : slots[i]? = some slot) :
    long (offset + i * (4 + metadata)) slot.1.toNat ∈ slotPatches metadata offset slots ∧
      (offset + i * (4 + metadata) + 4, [slot.2]) ∈ slotPatches metadata offset slots := by
  induction slots generalizing offset i with
  | nil => simp at hi
  | cons first rest ih =>
    cases i with
    | zero =>
      simp only [List.getElem?_cons_zero, Option.some.injEq] at hi
      subst hi
      simp [slotPatches, hm]
    | succ i =>
      have hstep : offset + (i + 1) * (4 + metadata) = offset + 4 + metadata + i * (4 + metadata) := by
        rw [Nat.add_mul]
        omega
      obtain ⟨hrva, hflags⟩ := ih (offset + 4 + metadata) i hi
      rw [hstep]
      simp only [slotPatches, hm, if_true, List.cons_append, List.nil_append, List.mem_cons]
      exact ⟨.inr (.inr hrva), .inr (.inr hflags)⟩

omit hspace hbig in
theorem slotAt_of_shows (hm : 0 < s.metadataSize.toNat)
    (htable : s.tableEnd ≤ size) (hs : s.SparesBelow s.tableEnd) (i : Nat)
    (slot : UInt32 × UInt8) (hi : s.slots[i]? = some slot) :
    Table.slotAt m (s.address (tableRva + i * (4 + s.metadataSize.toNat))) = .ok slot := by
  obtain ⟨hrva, hflags⟩ := mem_slotPatches s.metadataSize.toNat tableRva s.slots i slot hm hi
  let offset := tableRva + i * (4 + s.metadataSize.toNat)
  have hend : offset + 5 ≤ s.tableEnd := by
    have hlt := (List.getElem?_eq_some_iff.mp hi).1
    have hmul := Nat.mul_le_mul_right (4 + s.metadataSize.toNat) hlt
    rw [Nat.succ_mul] at hmul
    show tableRva + i * (4 + s.metadataSize.toNat) + 5 ≤ tableRva + _
    omega
  have hlaid : ∀ p, p ∈ slotPatches s.metadataSize.toNat tableRva s.slots → p ∈ s.laidOut := by
    intro p hp
    simp [laidOut, hp]
  have hreadRva : m.readUInt32 (s.address offset) = .ok slot.1 := by
    rw [h.readUInt32 (hlaid _ hrva) slot.1.toNat_lt (by omega) (hs.mono (by omega)),
      UInt32.ofNat_toNat]
  have hbyte : [slot.2] = LittleEndian.encode 1 slot.2.toNat := by simp [LittleEndian.encode]
  have hreadFlags : m.readUInt8 (s.address (offset + 4)) = .ok slot.2 := by
    rw [hbyte] at hflags
    rw [Memory.readUInt8, h.readNat (hlaid _ hflags) slot.2.toNat_lt (by omega) (hs.mono (by omega)),
      Except.map, UInt8.ofNat_toNat]
  have hnext : s.address offset + 4 = s.address (offset + 4) := address_add s offset 4
  show Table.slotAt m (s.address offset) = _
  simp only [Table.slotAt, Memory.uint32_fields, Memory.uint8_fields, hreadRva, hnext, hreadFlags]

omit hbig in
/-- The table of a mapped specimen decodes to the entries of its slots. -/
theorem entries_of_shows (hmade : s.WellMade) (hm : 0 < s.metadataSize.toNat)
    (hon : s.flags &&& GuardBlock.enabledFlag ≠ 0)
    (htable : s.tableEnd ≤ size) (hs : s.SparesBelow s.tableEnd) :
    Table.entries m s.base s.guardBlock = .ok (s.slots.filterMap (Table.entryOf? s.base)) := by
  have hsize := toNat_metadataSize_guardBlock hmade
  have hmeta : s.guardBlock.metadataSize ≠ 0 := by
    intro hz
    rw [hz] at hsize
    simp at hsize
    omega
  have hstride : Table.stride s.guardBlock = .ok s.guardBlock.metadataSize := by
    have henabled : s.guardBlock.isEnabled = true := by
      rw [isEnabled_guardBlock]
      simpa using hon
    simp [Table.stride, henabled, hmeta]
  have hinside := h.inside
  have hcount : s.guardBlock.count.toNat = s.slots.length := by
    show (UInt64.ofNat s.slots.length).toNat = _
    have hle := Nat.le_mul_of_pos_right s.slots.length (show 0 < 4 + s.metadataSize.toNat by omega)
    unfold spaceSize at hspace
    unfold tableEnd at htable
    rw [UInt64.toNat_ofNat']
    omega
  have hslot : ∀ i, s.tableAddress + UInt64.ofNat i * (4 + s.guardBlock.metadataSize.toUInt64) =
      s.address (tableRva + i * (4 + s.metadataSize.toNat)) := by
    intro i
    have hword : 4 + s.guardBlock.metadataSize.toUInt64 = UInt64.ofNat (4 + s.metadataSize.toNat) := by
      rw [← hsize, UInt64.ofNat_add, ← UInt32.toNat_toUInt64, UInt64.ofNat_toNat]
      rfl
    rw [hword, ← UInt64.ofNat_mul]
    exact address_add s tableRva _
  simp only [Table.entries, hstride, hcount]
  rw [Table.readSlots_of_list]
  · rfl
  · intro i slot hi
    show Table.slotAt m (s.tableAddress + _) = _
    rw [hslot]
    exact slotAt_of_shows h hm htable hs i slot hi

end Walk

theorem length_slots_lt (s : Specimen) (htable : s.tableEnd ≤ s.imageSize) : s.slots.length < 2 ^ 32 := by
  have hcode := s.codeBytes_le
  have hsize : s.imageSize = 65536 + s.codeBytes := rfl
  have hmul : s.slots.length * 4 ≤ s.slots.length * (4 + s.metadataSize.toNat) :=
    Nat.mul_le_mul_left _ (by omega)
  unfold tableEnd at htable
  omega

/-- Table address and slot count fit into a pointer of the width. -/
theorem pointers_lt (s : Specimen) (htable : s.tableEnd ≤ s.imageSize)
    (hspace : s.base.toNat + s.imageSize < spaceSize)
    (hlow : s.width = .bits32 → s.base.toNat + tableRva < 2 ^ 32) :
    s.tableAddress.toNat < 256 ^ s.width.pointerSize ∧ s.slots.length < 256 ^ s.width.pointerSize := by
  have hfew := s.length_slots_lt htable
  have hend : tableRva ≤ s.tableEnd := Nat.le_add_right _ _
  have htop : s.tableAddress.toNat = s.base.toNat + tableRva := toNat_address s tableRva (by omega)
  have hlt := s.tableAddress.toNat_lt
  cases hw : s.width with
  | bits32 =>
    rw [htop]
    exact ⟨hlow hw, hfew⟩
  | bits64 =>
    simp only [Width.pointerSize]
    omega

/-- A specimen whose guard table can be found and read back. -/
structure GuardIntact (s : Specimen) : Prop where
  made : s.WellMade
  config : s.hasLoadConfig = true
  directories : 11 ≤ s.directoryCount.toNat
  declared : ∀ n, s.declaredSize = some n → configSize s.width ≤ n.toNat
  table : s.tableEnd ≤ s.imageSize
  spares : s.SparesBelow s.tableEnd
  space : s.base.toNat + s.imageSize < spaceSize
  low : s.width = .bits32 → s.base.toNat + tableRva < 2 ^ 32

section Intact

variable {s : Specimen} (h : s.GuardIntact)
include h

theorem GuardIntact.isMapped : s.IsMapped s.build.memory :=
  s.isMapped_build (Nat.le_of_lt h.space)

theorem GuardIntact.shows : s.Shows s.build.memory s.imageSize :=
  h.isMapped.shows (Nat.le_of_lt h.space)

theorem GuardIntact.slots_lt : s.slots.length < 2 ^ 32 :=
  s.length_slots_lt h.table

theorem GuardIntact.pointers : s.tableAddress.toNat < 256 ^ s.width.pointerSize ∧
    s.slots.length < 256 ^ s.width.pointerSize :=
  s.pointers_lt h.table h.space h.low

/-- The header walk finds the guard block. -/
theorem GuardIntact.walked : s.walked = .ok s.guardBlock := by
  have hmany : ¬s.directoryCount ≤ Header.loadConfigIndex := fun hfew =>
    s.lacks_directory_iff.mp hfew h.directories
  have henough : ¬s.declared.toNat < configSize s.width := by
    unfold Specimen.declared
    cases hd : s.declaredSize with
    | none => cases s.width <;> decide
    | some n => exact Nat.not_lt.mpr (h.declared n hd)
  simp [Specimen.walked, hmany, h.config, henough]

theorem GuardIntact.find : Header.find s.build.memory s.base s.width = .ok s.guardBlock :=
  (find_of_shows h.shows h.space (s.le_imageSize (by decide)) (h.spares.mono (Nat.le_add_right _ _))
    h.pointers.1 h.pointers.2).trans h.walked

theorem GuardIntact.entries (hon : s.flags &&& GuardBlock.enabledFlag ≠ 0) (hmeta : s.metadataSize ≠ 0) :
    Table.entries s.build.memory s.base s.guardBlock = .ok (s.slots.filterMap (Table.entryOf? s.base)) := by
  have hpos : 0 < s.metadataSize.toNat := by
    rcases Nat.eq_zero_or_pos s.metadataSize.toNat with hz | hp
    · exact absurd (UInt8.toNat_inj.mp hz) hmeta
    · exact hp
  exact entries_of_shows h.shows h.space h.made hpos hon h.table h.spares

end Intact

theorem filterMap_entryOf?_slots (base : Address) (calls : List Call) :
    (calls.filterMap Call.slot?).filterMap (Table.entryOf? base) =
      (calls.filterMap Call.hashed?).map (Entry.ofRva base) := by
  rw [List.filterMap_filterMap, List.map_filterMap]
  have hhashed : ((0x08 : UInt8) &&& Table.hashFlag != 0) = true := by decide
  congr 1
  funext c
  cases c <;> simp [Call.slot?, Call.hashed?, Table.entryOf?, hhashed]

/-- Decoding undoes encoding. The header walk over a specimen finds its table, the number of its slots and
its flags below the metadata size; a table with hashes decodes to the functions that were given one, in the
order of the calls and with their repetitions. -/
theorem guard_decode_build (base : Address) (w : Width) (calls : List Call) (s : Specimen)
    (hmade : s = made base w calls) (hconfig : s.hasLoadConfig = true)
    (hdirectories : 11 ≤ s.directoryCount.toNat)
    (hdeclared : ∀ n, s.declaredSize = some n → configSize w ≤ n.toNat)
    (htable : s.tableEnd ≤ s.imageSize) (hspares : s.SparesBelow s.tableEnd)
    (hspace : base.toNat + s.imageSize < 2 ^ 64) (hlow : w = .bits32 → base.toNat + 0x1100 < 2 ^ 32) :
    ∃ b, (Header.locate s.build.memory base w).run.value = .ok b ∧
      b.table = s.tableAddress ∧ b.count.toNat = s.slots.length ∧
      b.flags.toNat = s.flags.toNat + s.metadataSize.toNat * 2 ^ 28 ∧ s.flags.toNat < 2 ^ 28 ∧
      (s.flags &&& GuardBlock.enabledFlag ≠ 0 → s.metadataSize ≠ 0 →
        ∃ t, (Table.decode s.build base b).value.1 = .ok t ∧
          t.entries = (calls.filterMap Call.hashed?).map (Entry.ofRva base)) := by
  have hwell : s.WellMade := hmade ▸ wellMade_made base w calls
  have hbase : s.base = base := by rw [hmade, base_made]
  have hwidth : s.width = w := by rw [hmade, width_made]
  have hslots : s.slots = calls.filterMap Call.slot? := by rw [hmade, slots_made]
  subst hbase hwidth
  have hintact : s.GuardIntact :=
    ⟨hwell, hconfig, hdirectories, hdeclared, htable, hspares, hspace, hlow⟩
  refine ⟨s.guardBlock, ?_, rfl, ?_, toNat_guardFlags hwell, hwell.flags, ?_⟩
  · rw [Header.locate_value, hintact.find]
  · have hfew := hintact.slots_lt
    show (UInt64.ofNat s.slots.length).toNat = _
    rw [UInt64.toNat_ofNat']
    omega
  · intro hon hmeta
    have hentries := hintact.entries hon hmeta
    rw [hslots, filterMap_entryOf?_slots] at hentries
    simp only [Table.decode, Debugger.decode, Debugger.fields_ofHost, hentries, Traced.value_bind, Traced.value_pure]
    exact ⟨_, rfl, by rw [Table.value_markAll]⟩

/-- A table of three slots, two of them for one function, with strides of five bytes. -/
theorem guard_decode_build_three :
    let s := made 0x140000000 .bits64
      [.hashedFunction 0x10010 0x1234, .plainFunction 0x10040, .hashedFunction 0x10010 0x1234]
    ∃ b, (Header.locate s.build.memory 0x140000000 .bits64).run.value = .ok b ∧
      b.table = s.tableAddress ∧ b.count.toNat = 3 ∧ b.flags.toNat = 0x00800500 + 2 ^ 28 ∧
      ∃ t, (Table.decode s.build 0x140000000 b).value.1 = .ok t ∧
        t.entries = [Entry.ofRva 0x140000000 0x10010, Entry.ofRva 0x140000000 0x10010] := by
  intro s
  obtain ⟨b, hb, htable, hcount, hflags, -, hdecode⟩ := guard_decode_build 0x140000000 .bits64 _ s rfl rfl
    (by decide) (by intro n hn; cases hn) (by decide) (sparesBelow_of_le (by decide)) (by decide)
    (by intro hw; cases hw)
  exact ⟨b, hb, htable, hcount, hflags.trans (by decide), hdecode (by decide) (by decide)⟩

end FlowGuard.Specimen
