import FlowGuard.Proofs.Specimen.Layout

/-!
The memory that holds a specimen. It is decided byte by byte and page by page, so two ways of mapping one
specimen give the same memory as soon as both are mappings of it.
-/

namespace FlowGuard.Specimen

/-- The page holds a part of the range from `first` up to `last`. -/
def Reaches (first last page : Nat) : Prop :=
  first < last ∧ first / pageSize ≤ page ∧ page * pageSize < last

instance (first last page : Nat) : Decidable (Reaches first last page) :=
  inferInstanceAs (Decidable (_ ∧ _))

/-- The memory holds the specimen at its base and nothing else: code pages are executable, the other pages
of the image are read-only, and what its pages hold beside the image is zero. -/
structure IsMapped (s : Specimen) (m : Memory) : Prop where
  bytes : ∀ i, m.byteAt? i =
    if s.base.toNat ≤ i ∧ i < s.base.toNat + s.imageSize then s.file[i - s.base.toNat]?
    else if Reaches s.base.toNat (s.base.toNat + s.imageSize) (i / pageSize) then some 0
    else none
  rights : ∀ page, m.rightsOf? page =
    if Reaches (s.base.toNat + codeRva) (s.base.toNat + s.imageSize) page then some .code
    else if Reaches s.base.toNat (s.base.toNat + codeRva) page then some .readOnly
    else none
  failingReads : m.failingReads = ∅
  failingRights : m.failingRights = ∅

def address (s : Specimen) (offset : Nat) : Address :=
  s.base + UInt64.ofNat offset

theorem toNat_address (s : Specimen) (offset : Nat) (h : s.base.toNat + offset < spaceSize) :
    (s.address offset).toNat = s.base.toNat + offset := by
  unfold spaceSize at h
  rw [address, UInt64.toNat_add, UInt64.toNat_ofNat']
  omega

theorem address_zero (s : Specimen) : s.address 0 = s.base :=
  UInt64.add_zero s.base

theorem address_add (s : Specimen) (offset count : Nat) :
    s.address offset + UInt64.ofNat count = s.address (offset + count) := by
  rw [address, address, UInt64.ofNat_add, UInt64.add_assoc]

theorem IsMapped.unique {s : Specimen} {m m' : Memory} (h : s.IsMapped m) (h' : s.IsMapped m') : m = m' := by
  apply Memory.ext_bytes
  · intro i
    rw [h.bytes, h'.bytes]
  · intro page
    rw [h.rights, h'.rights]
  · rw [h.failingReads, h'.failingReads]
  · rw [h.failingRights, h'.failingRights]

theorem IsMapped.isReadable {s : Specimen} {m : Memory} (h : s.IsMapped m) (o : Nat)
    (ho : o < s.imageSize) : m.IsReadable (s.base.toNat + o) := by
  refine ⟨by simp [h.failingReads], ?_⟩
  rw [h.rights]
  split
  · exact ⟨_, rfl, rfl⟩
  · next hcode =>
    rw [if_pos]
    · exact ⟨_, rfl, rfl⟩
    · simp only [Reaches, pageSize, codeRva] at hcode ⊢
      omega

/-- Every address of the image has rights. -/
theorem IsMapped.rightsAt {s : Specimen} {m : Memory} (h : s.IsMapped m) (o : Nat) (ho : o < s.imageSize)
    (hspace : s.base.toNat + s.imageSize ≤ spaceSize) : ∃ rights, m.rightsAt (s.address o) = .ok rights := by
  obtain ⟨-, rights, hrights, -⟩ := h.isReadable o ho
  refine ⟨rights, (m.rightsAt_eq_ok_iff _ _).mpr ?_⟩
  rw [toNat_address s o (by omega)]
  exact ⟨by simp [h.failingRights], hrights⟩

/-- Every part of the image can be read. -/
theorem IsMapped.read {s : Specimen} {m : Memory} (h : s.IsMapped m) (o count : Nat)
    (hin : o + count ≤ s.imageSize) (hspace : s.base.toNat + s.imageSize ≤ spaceSize) :
    m.read (s.address o) count = .ok (Bytes.part s.file o count) := by
  by_cases hz : count = 0
  · subst hz
    simp [Memory.read, Bytes.part]
  rw [Memory.read_eq_ok_iff, toNat_address s o (by omega)]
  refine ⟨Bytes.length_part _ _ _ (by rwa [size_file]), .inr (by omega), ?_⟩
  intro i hi
  rw [Nat.add_assoc]
  refine ⟨h.isReadable (o + i) (by omega), ?_⟩
  rw [h.bytes, if_pos (by omega), Bytes.getElem?_part _ _ _ _ hi, Nat.add_sub_cancel_left]

/-- The first `size` bytes of the image can be read, in any parts. -/
structure Shows (s : Specimen) (m : Memory) (size : Nat) : Prop where
  inside : size ≤ s.imageSize
  read : ∀ offset count, offset + count ≤ size →
    m.read (s.address offset) count = .ok (Bytes.part s.file offset count)

theorem IsMapped.shows {s : Specimen} {m : Memory} (h : s.IsMapped m)
    (hspace : s.base.toNat + s.imageSize ≤ spaceSize) : s.Shows m s.imageSize :=
  ⟨Nat.le_refl _, fun offset count hin => h.read offset count hin hspace⟩

theorem ofNat_ne_zero (n : Nat) (hpos : 0 < n) (h : n < spaceSize) : UInt64.ofNat n ≠ 0 := by
  intro hz
  have hn := UInt64.toNat_ofNat_of_lt' h
  rw [hz] at hn
  exact absurd hn (Nat.ne_of_lt hpos)

/-- The pages that a part of the image meets. -/
theorem meets_address (s : Specimen) {offset count : Nat} (page : Nat) (hpos : 0 < count)
    (hcount : count < spaceSize) (hspace : s.base.toNat + offset + count ≤ spaceSize) :
    Memory.Meets (s.address offset) (UInt64.ofNat count) page ↔
      Reaches (s.base.toNat + offset) (s.base.toNat + offset + count) page := by
  rw [Memory.Meets, Reaches, toNat_address s offset (by omega), UInt64.toNat_ofNat_of_lt' hcount,
    Nat.min_eq_left hspace]
  omega

/-- A range is reached where one of its two parts is. -/
theorem reaches_append {first mid last : Nat} (page : Nat) (hfirst : first ≤ mid) (hlast : mid ≤ last) :
    Reaches first last page ↔ Reaches first mid page ∨ Reaches mid last page := by
  simp only [Reaches, pageSize]
  omega

def mapPart (s : Specimen) (m : Memory) (offset count : Nat) (rights : Rights) :
    Memory × Except MemoryError Unit :=
  (m.map (s.address offset) (UInt64.ofNat count) rights).write (s.address offset)
    (Bytes.part s.file offset count)

/-- What mapping a part leaves: its bytes and rights, zeros in new pages, and all else as it was. -/
theorem mapPart_spec (s : Specimen) (m : Memory) (offset count : Nat) (rights : Rights) (hpos : 0 < count)
    (hcount : count < spaceSize) (hspace : s.base.toNat + offset + count ≤ spaceSize)
    (hin : offset + count ≤ s.imageSize) :
    (s.mapPart m offset count rights).2 = .ok () ∧
      (∀ i, (s.mapPart m offset count rights).1.byteAt? i =
        if s.base.toNat + offset ≤ i ∧ i < s.base.toNat + offset + count then s.file[i - s.base.toNat]?
        else if Reaches (s.base.toNat + offset) (s.base.toNat + offset + count) (i / pageSize) then
          some ((m.byteAt? i).getD 0)
        else m.byteAt? i) ∧
      (∀ page, (s.mapPart m offset count rights).1.rightsOf? page =
        if Reaches (s.base.toNat + offset) (s.base.toNat + offset + count) page then some rights
        else m.rightsOf? page) ∧
      (s.mapPart m offset count rights).1.failingReads = m.failingReads ∧
      (s.mapPart m offset count rights).1.failingRights = m.failingRights := by
  have ha : (s.address offset).toNat = s.base.toNat + offset := toNat_address s offset (by omega)
  have hne : UInt64.ofNat count ≠ 0 := ofNat_ne_zero count hpos hcount
  have hmeets (page : Nat) := s.meets_address page hpos hcount hspace
  have hlen : (Bytes.part s.file offset count).length = count :=
    Bytes.length_part _ _ _ (by simpa using hin)
  let mapped := m.map (s.address offset) (UInt64.ofNat count) rights
  have hrights : ∀ page, mapped.rightsOf? page =
      if Reaches (s.base.toNat + offset) (s.base.toNat + offset + count) page then some rights
      else m.rightsOf? page := by
    intro page
    simp only [mapped, Memory.rightsOf?_map _ _ _ _ hne, hmeets]
  have hwrite := Memory.write_of_storable mapped (s.address offset) (Bytes.part s.file offset count) (by
    intro i hi
    rw [hlen] at hi
    refine ⟨by omega, ?_⟩
    rw [hrights, if_pos]
    · rfl
    · simp only [Reaches, ha, pageSize]
      omega)
  obtain ⟨hok, hstored⟩ : (s.mapPart m offset count rights).2 = .ok () ∧ Memory.Stored mapped
      (s.address offset).toNat (Bytes.part s.file offset count) (s.mapPart m offset count rights).1 := hwrite
  refine ⟨hok, ?_, fun page => by rw [hstored.rights, hrights], ?_, ?_⟩
  · intro i
    rw [hstored.bytes, ha, hlen, Memory.byteAt?_map _ _ _ _ hne]
    simp only [hmeets]
    by_cases hnew : s.base.toNat + offset ≤ i ∧ i < s.base.toNat + offset + count
    · rw [if_pos hnew, if_pos hnew, Bytes.getElem?_part _ _ _ _ (by omega)]
      congr 1
      omega
    · rw [if_neg hnew, if_neg hnew]
  · rw [hstored.failingReads, (Memory.failing_map _ _ _ _).1]
  · rw [hstored.failingRights, (Memory.failing_map _ _ _ _).2]

/-- The memory holds the first `size` bytes of the image, and zeros in the rest of their pages. -/
def HoldsUpTo (s : Specimen) (size : Nat) (m : Memory) : Prop :=
  ∀ i, m.byteAt? i =
    if s.base.toNat ≤ i ∧ i < s.base.toNat + size then s.file[i - s.base.toNat]?
    else if Reaches s.base.toNat (s.base.toNat + size) (i / pageSize) then some 0
    else none

/-- Mapping the next part of the image. -/
theorem HoldsUpTo.mapPart {s : Specimen} {size : Nat} {m : Memory} (h : s.HoldsUpTo size m) (count : Nat)
    (rights : Rights) (hpos : 0 < count) (hcount : count < spaceSize)
    (hspace : s.base.toNat + size + count ≤ spaceSize) (hin : size + count ≤ s.imageSize) :
    s.HoldsUpTo (size + count) (s.mapPart m size count rights).1 := by
  intro i
  rw [(mapPart_spec s m size count rights hpos hcount hspace hin).2.1, h i]
  have hreach := reaches_append (i / pageSize) (Nat.le_add_right s.base.toNat size)
    (Nat.le_add_right (s.base.toNat + size) count)
  by_cases hnew : s.base.toNat + size ≤ i ∧ i < s.base.toNat + size + count
  · have hall : s.base.toNat ≤ i ∧ i < s.base.toNat + (size + count) := by omega
    rw [if_pos hnew, if_pos hall]
  by_cases hold : s.base.toNat ≤ i ∧ i < s.base.toNat + size
  · have hlt : i - s.base.toNat < s.file.size := by
      rw [size_file]
      omega
    have hall : s.base.toNat ≤ i ∧ i < s.base.toNat + (size + count) := by omega
    rw [if_neg hnew, if_pos hold, if_pos hall, Array.getElem?_eq_getElem hlt]
    split <;> rfl
  · have hall : ¬(s.base.toNat ≤ i ∧ i < s.base.toNat + (size + count)) := by omega
    rw [if_neg hnew, if_neg hold, if_neg hall, ← Nat.add_assoc]
    simp only [hreach]
    by_cases hfront : Reaches s.base.toNat (s.base.toNat + size) (i / pageSize)
    · simp [hfront]
    · simp [hfront]

theorem holdsUpTo_empty (s : Specimen) : s.HoldsUpTo 0 {} := by
  intro i
  have hnone : ¬Reaches s.base.toNat (s.base.toNat + 0) (i / pageSize) := fun h => absurd h.1 (by omega)
  rw [if_neg (by omega), if_neg hnone]
  simp [Memory.byteAt?]

/-- The pages of the image before its bytes are written. -/
def imagePages (s : Specimen) : Memory :=
  (Memory.map {} s.base (UInt64.ofNat codeRva) Rights.readOnly).map
    (s.address codeRva) (UInt64.ofNat s.codeBytes) Rights.code

def imageMemory (s : Specimen) : Memory :=
  (s.imagePages.write s.base s.file.toList).1

theorem addSymbols_eq (h : Host) (base : Address) (names : List (UInt32 × String)) :
    names.foldl (fun h (rva, name) => h.addSymbol (base + rva.toUInt64) name) h =
      { h with
        symbols := names.foldl (fun t (rva, name) => t.insert (base + rva.toUInt64) name) h.symbols } := by
  induction names generalizing h with
  | nil => rfl
  | cons p names ih => exact ih _

theorem build_eq (s : Specimen) :
    s.build = {
      memory := s.imageMemory
      modules := [s.loadedModule]
      selection := some s.base
      symbols := s.symbols.foldl (fun t (rva, name) => t.insert (s.base + rva.toUInt64) name) ∅ } := by
  unfold build mapInto
  simp only [addSymbols_eq]
  rfl

/-- A fresh image refuses marks outside its module only. -/
theorem refusal?_build (s : Specimen) (a : Address) :
    s.build.refusal? a = if s.loadedModule.contains a then none else some (.outsideModules a) := by
  rw [build_eq]
  unfold Host.refusal? Host.moduleAt?
  cases hc : s.loadedModule.contains a <;> simp [hc]

theorem codeBytes_lt_spaceSize (s : Specimen) : s.codeBytes < spaceSize :=
  Nat.lt_of_le_of_lt s.codeBytes_le (by decide)

/-- A page of the image belongs to its data or to its code. -/
theorem reaches_image (s : Specimen) (page : Nat) :
    Reaches s.base.toNat (s.base.toNat + s.imageSize) page ↔
      Reaches s.base.toNat (s.base.toNat + codeRva) page ∨
        Reaches (s.base.toNat + codeRva) (s.base.toNat + s.imageSize) page :=
  reaches_append page (Nat.le_add_right _ _) (Nat.add_le_add_left (s.le_imageSize (Nat.le_refl _)) _)

section ImagePages

variable (s : Specimen) (hspace : s.base.toNat + s.imageSize ≤ spaceSize)
include hspace

theorem meets_data (page : Nat) : Memory.Meets s.base (UInt64.ofNat codeRva) page ↔
    Reaches s.base.toNat (s.base.toNat + codeRva) page := by
  have hbig : codeRva ≤ s.imageSize := s.le_imageSize (Nat.le_refl _)
  have h := s.meets_address page (show 0 < codeRva by decide) (by decide)
    (show s.base.toNat + 0 + _ ≤ _ by omega)
  rwa [address_zero] at h

theorem meets_code (page : Nat) : Memory.Meets (s.address codeRva) (UInt64.ofNat s.codeBytes) page ↔
    Reaches (s.base.toNat + codeRva) (s.base.toNat + s.imageSize) page := by
  have hsize : s.imageSize = codeRva + s.codeBytes := rfl
  rw [s.meets_address page s.codeBytes_pos s.codeBytes_lt_spaceSize (by omega), hsize, Nat.add_assoc]

theorem rightsOf?_imagePages (page : Nat) : s.imagePages.rightsOf? page =
    if Reaches (s.base.toNat + codeRva) (s.base.toNat + s.imageSize) page then some .code
    else if Reaches s.base.toNat (s.base.toNat + codeRva) page then some .readOnly
    else none := by
  have hcode := ofNat_ne_zero _ s.codeBytes_pos s.codeBytes_lt_spaceSize
  simp only [imagePages, Memory.rightsOf?_map _ _ _ _ hcode, meets_code s hspace,
    Memory.rightsOf?_map _ _ (UInt64.ofNat codeRva) _ (by decide), meets_data s hspace]
  simp [Memory.rightsOf?]

theorem byteAt?_imagePages (i : Nat) : s.imagePages.byteAt? i =
    if Reaches s.base.toNat (s.base.toNat + s.imageSize) (i / pageSize) then some 0 else none := by
  have hcode := ofNat_ne_zero _ s.codeBytes_pos s.codeBytes_lt_spaceSize
  simp only [imagePages, Memory.byteAt?_map _ _ _ _ hcode, meets_code s hspace,
    Memory.byteAt?_map _ _ (UInt64.ofNat codeRva) _ (by decide), meets_data s hspace, reaches_image]
  by_cases hd : Reaches s.base.toNat (s.base.toNat + codeRva) (i / pageSize) <;>
    by_cases hc : Reaches (s.base.toNat + codeRva) (s.base.toNat + s.imageSize) (i / pageSize) <;>
    simp [hd, hc, Memory.byteAt?]

/-- Every byte of the image has its place in the pages. -/
theorem isStorable_imagePages (i : Nat) (hi : i < s.file.toList.length) :
    s.imagePages.IsStorable (s.base.toNat + i) := by
  rw [Array.length_toList, size_file] at hi
  have hr : Reaches s.base.toNat (s.base.toNat + s.imageSize) ((s.base.toNat + i) / pageSize) := by
    simp only [Reaches, pageSize]
    omega
  refine ⟨by omega, ?_⟩
  rw [rightsOf?_imagePages s hspace]
  rcases (reaches_image s _).mp hr with hd | hc
  · rw [if_pos hd]
    split <;> rfl
  · rw [if_pos hc]
    rfl

/-- The image is mapped as a whole: first its pages, then its bytes. -/
theorem isMapped_imageMemory : s.IsMapped s.imageMemory := by
  obtain ⟨-, hstored⟩ := Memory.write_of_storable s.imagePages s.base s.file.toList
    (isStorable_imagePages s hspace)
  rw [imageMemory]
  constructor
  · intro i
    rw [hstored.bytes, Array.length_toList, size_file, byteAt?_imagePages s hspace, Array.getElem?_toList]
  · intro page
    rw [hstored.rights, rightsOf?_imagePages s hspace]
  · rw [hstored.failingReads, imagePages, (Memory.failing_map _ _ _ _).1, (Memory.failing_map _ _ _ _).1]
  · rw [hstored.failingRights, imagePages, (Memory.failing_map _ _ _ _).2, (Memory.failing_map _ _ _ _).2]

theorem isMapped_build : s.IsMapped s.build.memory := by
  rw [build_eq]
  exact isMapped_imageMemory s hspace

end ImagePages

end FlowGuard.Specimen
