import FlowGuard.Image.Load
import FlowGuard.Proofs.Effects
import FlowGuard.Proofs.Memory.Placement
import Mathlib.Data.Nat.Bitwise
import Mathlib.Order.Bounds.Defs

/-!
Mapping the sections of an image. When base and sections start on pages and the pages of the sections lie apart from
each other and from the headers, the loaded memory is one placement behind the other: the first page of the file, then
every section with its rights, its bytes of the file and zeros behind them. The extent that is computed beforehand is
the least that holds them all.
-/

namespace FlowGuard

namespace ImageFile

open Bytes in
/-- The headers of a file whose checks all pass. -/
theorem parseHeaders_eq (file : Array UInt8) (nt : Nat) (w : Width) (headers extra : List UInt8)
    (sections : List SectionHeader)
    (hheaders : slice? file nt (24 + optionalFixed w) = some headers)
    (hsize : ¬field headers 20 2 < optionalFixed w)
    (hextra : read? file (nt + 24 + optionalFixed w)
      (field headers 20 2 - optionalFixed w) = some extra)
    (hcount : ¬extra.length < field (headers.drop 24) (optionalFixed w - 4) 4 * 8)
    (hsections : sectionTable? file (nt + 24 + field headers 20 2) (field headers 6 2) =
      some sections) :
    parseHeaders file nt w = .ok {
      file
      machine := Machine.ofCode (field headers 4 2)
      width := w
      base := imageBase w (headers.drop 24)
      directories :=
        (parts 8 (field (headers.drop 24) (optionalFixed w - 4) 4) extra).map fun entry =>
          { rva := UInt32.ofNat (field entry 0 4), size := UInt32.ofNat (field entry 4 4) }
      sections
      symbolOffset := UInt32.ofNat (field headers 12 4)
      symbolCount := UInt32.ofNat (field headers 16 4) } := by
  simp only [parseHeaders, hheaders, require, bind, Except.bind, hsize, if_false, hextra, hcount,
    hsections, pure, Except.pure]

theorem file_parseHeaders {file : Array UInt8} {nt : Nat} {w : Width} {f : ImageFile}
    (h : parseHeaders file nt w = .ok f) : f.file = file := by
  unfold parseHeaders at h
  simp only [bind_eq_ok_iff, throw_or_eq_ok_iff] at h
  obtain ⟨_, -, -, _, -, -, _, -, hf⟩ := h
  cases hf
  rfl

/-- An image keeps the bytes it was read from, and there are some. -/
theorem file_parse {file : Array UInt8} {f : ImageFile} (h : parse file = .ok (.image f)) :
    f.file = file ∧ 0 < file.size := by
  have hmap {ε α β : Type} (x : Except ε α) (g : α → β) (b : β) (hx : x.map g = .ok b) : ∃ a, x = .ok a ∧ g a = b := by
    cases x with
    | error e => cases hx
    | ok a => exact ⟨a, rfl, Except.ok.inj hx⟩
  unfold parse at h
  split at h
  case isTrue => cases h
  case isFalse hsize =>
    refine ⟨?_, by omega⟩
    cases hk : kind file with
    | image =>
      simp only [hk] at h
      cases hp : probe? file with
      | none => simp [hp] at h
      | some found =>
        simp only [hp] at h
        obtain ⟨f', hf', hsame⟩ := hmap _ _ _ h
        cases hsame
        exact file_parseHeaders hf'
    | elf _ | machO _ | xcoff _ =>
      simp only [hk] at h
      obtain ⟨_, -, hsame⟩ := hmap _ _ _ h
      cases hsame
    | object =>
      simp only [hk, bind_eq_ok_iff] at h
      obtain ⟨_, -, _, -, hsame⟩ := h
      cases hsame
    | anonymousObject =>
      simp only [hk] at h
      split at h
      case isTrue =>
        simp only [bind_eq_ok_iff] at h
        obtain ⟨_, -, _, -, hsame⟩ := h
        cases hsame
      case isFalse => cases h
    | unsupported | unknown => simp [hk] at h

end ImageFile

namespace Loading

theorem dvd_roundUp (n : Nat) : pageSize ∣ roundUp n :=
  Nat.dvd_mul_left pageSize _

theorem roundUp_le_iff {m n : Nat} (hn : pageSize ∣ n) : roundUp m ≤ n ↔ m ≤ n := by
  obtain ⟨k, rfl⟩ := hn
  unfold roundUp
  simp only [pageSize]
  omega

theorem le_roundUp (n : Nat) : n ≤ roundUp n :=
  (roundUp_le_iff (dvd_roundUp n)).mp (Nat.le_refl _)

theorem foldl_max_le_iff (ns : List Nat) (least n : Nat) : ns.foldl max least ≤ n ↔ least ≤ n ∧ ∀ k ∈ ns, k ≤ n := by
  induction ns generalizing least with
  | nil => simp
  | cons k rest ih => rw [List.foldl_cons, ih, Nat.max_le, and_assoc, List.forall_mem_cons]

theorem sectionEnd_eq (s : SectionHeader) : sectionEnd s = s.virtualAddress.toNat + s.virtualSize.toNat := by
  unfold sectionEnd SectionHeader.fileSize
  omega

theorem dvd_extent (f : ImageFile) : pageSize ∣ extent f :=
  dvd_roundUp _

/-- Whole pages hold an image when they hold the headers and every section. -/
theorem extent_le_iff (f : ImageFile) (hfile : 0 < f.file.size) {n : Nat} (hn : pageSize ∣ n) :
    extent f ≤ n ↔ pageSize ≤ n ∧ ∀ s ∈ f.sections, s.virtualAddress.toNat + s.virtualSize.toNat ≤ n := by
  have hheaders : roundUp (min f.file.size pageSize) = pageSize := by
    unfold roundUp
    simp only [pageSize]
    omega
  rw [extent, roundUp_le_iff hn, foldl_max_le_iff, hheaders]
  simp only [List.forall_mem_map, sectionEnd_eq]

def Occupies (s : SectionHeader) (rva : Nat) : Prop :=
  s.virtualAddress.toNat ≤ rva ∧ rva < s.virtualAddress.toNat + roundUp s.virtualSize.toNat

/-- Base and sections start on pages, and the pages of the sections lie apart from each other and from the headers. -/
structure WellPlaced (f : ImageFile) : Prop where
  base_aligned : f.base.toNat % pageSize = 0
  aligned : ∀ s ∈ f.sections, s.virtualAddress.toNat % pageSize = 0
  headers_apart : ∀ s ∈ f.sections, ∀ rva, rva < pageSize → ¬Occupies s rva
  apart : f.sections.Pairwise fun s t => ∀ rva, Occupies s rva → ¬Occupies t rva
  in_space : f.base.toNat + extent f < spaceSize

theorem end_le_extent {f : ImageFile} (hfile : 0 < f.file.size) {s : SectionHeader} (hs : s ∈ f.sections)
    (haligned : s.virtualAddress.toNat % pageSize = 0) :
    s.virtualAddress.toNat + roundUp s.virtualSize.toNat ≤ extent f := by
  have hend := ((extent_le_iff f hfile (dvd_extent f)).mp (Nat.le_refl _)).2 s hs
  obtain ⟨k, hk⟩ := dvd_extent f
  rw [hk] at hend ⊢
  unfold roundUp
  simp only [pageSize] at *
  omega

theorem pageSize_le_extent {f : ImageFile} (hfile : 0 < f.file.size) : pageSize ≤ extent f :=
  ((extent_le_iff f hfile (dvd_extent f)).mp (Nat.le_refl _)).1

def headerPlacement (f : ImageFile) : Placement where
  start := f.base.toNat
  size := pageSize
  rights := .readOnly
  bytes := (f.file.extract 0 pageSize).toList
  fits := by
    rw [Array.length_toList, Array.size_extract]
    omega

theorem length_data_le (s : SectionHeader) (file : Array UInt8) :
    ((s.data? file).getD []).length ≤ s.virtualSize.toNat := by
  have hle : s.fileSize ≤ s.virtualSize.toNat := Nat.min_le_left _ _
  unfold SectionHeader.data? Bytes.read? Bytes.slice?
  split
  · simp
  · split
    · simp only [Option.getD_some, Array.length_toList, Array.size_extract]
      omega
    · simp

def sectionPlacement (f : ImageFile) (s : SectionHeader) : Placement where
  start := f.base.toNat + s.virtualAddress.toNat
  size := roundUp s.virtualSize.toNat
  rights := sectionRights s
  bytes := (s.data? f.file).getD []
  fits := Nat.le_trans (length_data_le s f.file) (le_roundUp _)

theorem toNat_sectionAddress {f : ImageFile} (hplaced : WellPlaced f) (hfile : 0 < f.file.size) {s : SectionHeader}
    (hs : s ∈ f.sections) :
    (f.base + s.virtualAddress.toUInt64).toNat = f.base.toNat + s.virtualAddress.toNat := by
  have hend := end_le_extent hfile hs (hplaced.aligned s hs)
  have hspace := hplaced.in_space
  rw [UInt64.toNat_add, UInt32.toNat_toUInt64]
  exact Nat.mod_eq_of_lt (show _ < spaceSize by omega)

theorem toNat_ofNat_roundUp {f : ImageFile} (hplaced : WellPlaced f) (hfile : 0 < f.file.size) {s : SectionHeader}
    (hs : s ∈ f.sections) :
    (UInt64.ofNat (roundUp s.virtualSize.toNat)).toNat = roundUp s.virtualSize.toNat := by
  have hend := end_le_extent hfile hs (hplaced.aligned s hs)
  have hspace := hplaced.in_space
  rw [UInt64.toNat_ofNat']
  exact Nat.mod_eq_of_lt (show _ < spaceSize by omega)

theorem mapHeaders_spec {f : ImageFile} (hplaced : WellPlaced f) (hfile : 0 < f.file.size) :
    ∃ m, mapHeaders f {} = .ok m ∧ m.flat = ({} : FlatMemory).place (headerPlacement f) := by
  have hspace := hplaced.in_space
  have hextent := pageSize_le_extent hfile
  have hempty : ({} : Memory).flat = {} := by simp [Memory.flat, Memory.byteAt?, Memory.rightsOf?]
  obtain ⟨hok, hflat⟩ := Memory.flat_place {} f.base (headerPlacement f) rfl hplaced.base_aligned (Nat.mod_self _)
    (show 0 < pageSize by decide) (show f.base.toNat + pageSize < spaceSize by omega)
  obtain ⟨m, hm⟩ : ∃ m, (({} : Memory).map f.base (UInt64.ofNat pageSize) .readOnly).write f.base
      (f.file.extract 0 pageSize).toList = (m, .ok ()) := ⟨_, Prod.ext rfl hok⟩
  refine ⟨m, by simp only [mapHeaders, hm], ?_⟩
  rw [← hempty, ← hflat]
  exact congrArg (Memory.flat ∘ Prod.fst) hm.symm

/-- One section. -/
theorem flat_mapSection {f : ImageFile} (hplaced : WellPlaced f) (hfile : 0 < f.file.size) (m : Memory)
    {s : SectionHeader} (hs : s ∈ f.sections) :
    (mapSection f m s).value.flat = m.flat.place (sectionPlacement f s) := by
  have hlen := length_data_le s f.file
  have hsize : max s.virtualSize.toNat ((s.data? f.file).getD []).length = s.virtualSize.toNat := Nat.max_eq_left hlen
  have hend := end_le_extent hfile hs (hplaced.aligned s hs)
  have hspace := hplaced.in_space
  unfold mapSection
  simp only [hsize]
  by_cases hz : s.virtualSize.toNat = 0
  · rw [if_pos hz, FlatMemory.place_of_empty _ _ (show roundUp s.virtualSize.toNat = 0 by rw [hz]; rfl)]
    rfl
  · have hround := le_roundUp s.virtualSize.toNat
    have hstart : (f.base.toNat + s.virtualAddress.toNat) % pageSize = 0 := by
      rw [Nat.add_mod, hplaced.base_aligned, hplaced.aligned s hs, Nat.zero_mod]
    obtain ⟨hok, hflat⟩ := m.flat_place (f.base + s.virtualAddress.toUInt64) (sectionPlacement f s)
      (toNat_sectionAddress hplaced hfile hs) hstart (Nat.mod_eq_zero_of_dvd (dvd_roundUp _))
      (show 0 < roundUp s.virtualSize.toNat by omega)
      (show f.base.toNat + s.virtualAddress.toNat + roundUp s.virtualSize.toNat < spaceSize by omega)
    obtain ⟨m', hm'⟩ : ∃ m', (m.map (f.base + s.virtualAddress.toUInt64)
        (UInt64.ofNat (roundUp s.virtualSize.toNat)) (sectionRights s)).write (f.base + s.virtualAddress.toUInt64)
        ((s.data? f.file).getD []) = (m', .ok ()) := ⟨_, Prod.ext rfl hok⟩
    rw [if_neg hz, ← hflat]
    simp only [hm']
    exact congrArg (Memory.flat ∘ Prod.fst) hm'.symm

/-- All sections, one behind the other. -/
theorem flat_mapSections {f : ImageFile} (hplaced : WellPlaced f) (hfile : 0 < f.file.size) (m : Memory)
    (ss : List SectionHeader) (hss : ∀ s ∈ ss, s ∈ f.sections) :
    (mapSections f m ss).value.flat = (ss.map (sectionPlacement f)).foldl FlatMemory.place m.flat := by
  induction ss generalizing m with
  | nil => rfl
  | cons s rest ih =>
    rw [mapSections, Traced.value_bind, ih _ fun t ht => hss t (List.mem_cons_of_mem s ht),
      flat_mapSection hplaced hfile m (hss s List.mem_cons_self)]
    rfl

/-- What is loaded. -/
theorem loadImage_value_of_fits (f : ImageFile) (limits : LoadLimits) (headers : Memory)
    (hsize : extent f ≤ limits.imageSize) (hheaders : mapHeaders f {} = .ok headers) :
    let place : LoadedModule := { base := f.base, size := UInt64.ofNat (extent f) }
    let names := kept place ((exportNames f).value ++ symbolNames f)
    (loadImage f limits).run.value = .ok {
      host := {
        memory := (mapSections f headers f.sections).value
        modules := [place]
        selection := some f.base
        symbols := names.foldl (fun t p => t.insert p.1 p.2) ∅ }
      place
      width := (widthOf f).value
      symbolCount := names.length } := by
  have hlift {α : Type} (x : Traced α) : (ExceptT.lift x : ExceptT LoadError Traced α).run.value =
      .ok x.value := rfl
  have hfits : ¬limits.imageSize < extent f := by omega
  have hmapped : (ExceptT.mk (pure (mapHeaders f {})) : ExceptT LoadError Traced Memory).run.value =
      .ok headers := hheaders
  have hsymbols (h : Host) (names : List (Address × String)) :
      names.foldl (fun h p => h.addSymbol p.1 p.2) h =
        { h with symbols := names.foldl (fun t p => t.insert p.1 p.2) h.symbols } := by
    induction names generalizing h with
    | nil => rfl
    | cons p rest ih => exact ih (h.addSymbol p.1 p.2)
  intro place names
  have hhost := hsymbols
    { memory := (mapSections f headers f.sections).value, modules := [place], selection := some f.base } names
  unfold loadImage
  simp only [Traced.value_run_bind, hlift, hfits, if_false, hmapped]
  rw [← hhost]
  rfl

theorem loadImage_value_of_large (f : ImageFile) (limits : LoadLimits) (hsize : limits.imageSize < extent f) :
    (loadImage f limits).run.value = .error (.imageTooLarge (extent f) limits.imageSize) := by
  have hlift {α : Type} (x : Traced α) : (ExceptT.lift x : ExceptT LoadError Traced α).run.value =
      .ok x.value := rfl
  unfold loadImage
  simp only [Traced.value_run_bind, hlift, hsize, if_true]
  rfl

/-- A byte of a section: that of the file, if the file holds all of the section's data, and zero elsewhere. -/
def sectionByte (file : Array UInt8) (s : SectionHeader) (i : Nat) : UInt8 :=
  let count := min s.virtualSize.toNat s.rawSize.toNat
  if i < count ∧ s.rawOffset.toNat + count ≤ file.size then file.getD (s.rawOffset.toNat + i) 0 else 0

theorem getD_data (s : SectionHeader) (file : Array UInt8) (i : Nat) :
    ((s.data? file).getD []).getD i 0 = sectionByte file s i := by
  unfold SectionHeader.data? Bytes.read? Bytes.slice? sectionByte
  rw [SectionHeader.fileSize]
  generalize min s.virtualSize.toNat s.rawSize.toNat = count
  by_cases hz : count = 0
  · simp [hz]
  · by_cases hin : s.rawOffset.toNat + count ≤ file.size
    · simp only [hz, hin, if_true, if_false, and_true, Option.getD_some, List.getD_eq_getElem?_getD,
        Array.getElem?_toList, Array.getElem?_extract, Array.getD_eq_getD_getElem?]
      have hmin : min (s.rawOffset.toNat + count) file.size - s.rawOffset.toNat = count := by omega
      rw [hmin]
      split <;> rfl
    · simp [hz, hin]

theorem getD_headers (file : Array UInt8) (i : Nat) (hi : i < pageSize) :
    (file.extract 0 pageSize).toList.getD i 0 = file.getD i 0 := by
  simp only [List.getD_eq_getElem?_getD, Array.getElem?_toList, Array.getElem?_extract, Array.getD_eq_getD_getElem?,
    Nat.zero_add, Nat.sub_zero]
  split
  case isTrue => rfl
  case isFalse hbehind =>
    have hnone : file[i]? = none := Array.getElem?_eq_none (by omega)
    rw [hnone]

/-- The rights that three bits of the characteristics give: code can be read, and what has no rights too. -/
def rightsOfBits (characteristics : UInt32) : Rights :=
  let bit := characteristics.toNat.testBit
  { read := bit 30 || bit 29 || !bit 31
    write := bit 31
    execute := bit 29 }

theorem and_bne_zero (c bit : UInt32) (k : Nat) (hbit : bit.toNat = 2 ^ k) : (c &&& bit != 0) = c.toNat.testBit k := by
  rw [Bool.eq_iff_iff, bne_iff_ne, ne_eq, ← UInt32.toNat_inj, UInt32.toNat_and, hbit, Nat.and_two_pow]
  cases c.toNat.testBit k <;> simp

theorem sectionRights_eq (s : SectionHeader) : sectionRights s = rightsOfBits s.characteristics := by
  unfold sectionRights SectionHeader.rights rightsOfBits
  simp only [and_bne_zero s.characteristics 0x40000000 30 rfl, and_bne_zero s.characteristics 0x20000000 29 rfl,
    and_bne_zero s.characteristics 0x80000000 31 rfl]
  cases s.characteristics.toNat.testBit 29 <;> cases s.characteristics.toNat.testBit 30 <;>
    cases s.characteristics.toNat.testBit 31 <;> rfl

def placements (f : ImageFile) : List Placement :=
  headerPlacement f :: f.sections.map (sectionPlacement f)

theorem covers_header_iff (f : ImageFile) (i : Nat) :
    (headerPlacement f).Covers i ↔ ∃ rva, i = f.base.toNat + rva ∧ rva < pageSize := by
  constructor
  · rintro ⟨hle, hlt⟩
    exact ⟨i - f.base.toNat, (Nat.add_sub_cancel' hle).symm, Nat.sub_lt_left_of_lt_add hle hlt⟩
  · rintro ⟨rva, rfl, hlt⟩
    exact ⟨Nat.le_add_right _ _, Nat.add_lt_add_left hlt _⟩

theorem covers_section_iff (f : ImageFile) (s : SectionHeader) (i : Nat) :
    (sectionPlacement f s).Covers i ↔ ∃ rva, i = f.base.toNat + rva ∧ Occupies s rva := by
  have hcovers : (sectionPlacement f s).Covers i ↔ f.base.toNat + s.virtualAddress.toNat ≤ i ∧
      i < f.base.toNat + s.virtualAddress.toNat + roundUp s.virtualSize.toNat := Iff.rfl
  unfold Occupies
  rw [hcovers]
  constructor
  · rintro ⟨hle, hlt⟩
    exact ⟨i - f.base.toNat, by omega, by omega, by omega⟩
  · rintro ⟨rva, rfl, hle, hlt⟩
    exact ⟨by omega, by omega⟩

theorem pairwise_placements {f : ImageFile} (hplaced : WellPlaced f) : (placements f).Pairwise Placement.Apart := by
  refine List.pairwise_cons.mpr ⟨?_, ?_⟩
  · intro p hp i hheader hsection
    obtain ⟨s, hs, rfl⟩ := List.mem_map.mp hp
    obtain ⟨rva, rfl, hlt⟩ := (covers_header_iff f i).mp hheader
    obtain ⟨rva', he, hocc⟩ := (covers_section_iff f s _).mp hsection
    obtain rfl : rva = rva' := Nat.add_left_cancel he
    exact hplaced.headers_apart s hs rva hlt hocc
  · refine List.pairwise_map.mpr (hplaced.apart.imp ?_)
    intro s t hapart i hs ht
    obtain ⟨rva, rfl, hocc⟩ := (covers_section_iff f s i).mp hs
    obtain ⟨rva', he, hocc'⟩ := (covers_section_iff f t _).mp ht
    obtain rfl : rva = rva' := Nat.add_left_cancel he
    exact hapart rva hocc hocc'

/-- The loaded image has the file's headers and sections where they belong and nothing else. -/
structure MapsExactly (file : Array UInt8) (f : ImageFile) (loaded : LoadedImage) : Prop where
  place_eq : loaded.place.base = f.base ∧ loaded.place.size.toNat = extent f
  modules_eq : loaded.host.modules = [loaded.place]
  selected : loaded.host.selectedModule? = some loaded.place
  mapped_iff : ∀ i, (loaded.host.memory.flat.rights? i).isSome = true ↔
    ∃ rva, i = f.base.toNat + rva ∧ (rva < pageSize ∨ ∃ s ∈ f.sections, Occupies s rva)
  inside : ∀ i, (loaded.host.memory.flat.rights? i).isSome = true →
    f.base.toNat ≤ i ∧ i < f.base.toNat + extent f
  headers : ∀ i, i < pageSize → loaded.host.memory.flat.rights? (f.base.toNat + i) = some .readOnly ∧
    loaded.host.memory.flat.byte (f.base.toNat + i) = file.getD i 0
  sections : ∀ s ∈ f.sections, ∀ i, i < roundUp s.virtualSize.toNat →
    let position := f.base.toNat + s.virtualAddress.toNat + i
    loaded.host.memory.flat.rights? position = some (rightsOfBits s.characteristics) ∧
      loaded.host.memory.flat.byte position = sectionByte file s i
  not_refused : ∀ i, loaded.host.memory.flat.refused i = false
  symbols : ∀ (a : Address) (name : String), loaded.host.symbols[a]? = some name →
    f.base.toNat ≤ a.toNat ∧ a.toNat < f.base.toNat + extent f
  /-- Sums and sizes are those of the natural numbers. -/
  unwrapped : loaded.place.endAddress.toNat = f.base.toNat + extent f ∧
    ∀ s ∈ f.sections,
      (f.base + s.virtualAddress.toUInt64).toNat = f.base.toNat + s.virtualAddress.toNat ∧
      (UInt64.ofNat (roundUp s.virtualSize.toNat)).toNat = roundUp s.virtualSize.toNat ∧
      s.virtualAddress.toNat + roundUp s.virtualSize.toNat ≤ extent f

section Loaded

variable {f : ImageFile} (hplaced : WellPlaced f) (hfile : 0 < f.file.size)
include hplaced

theorem toNat_extent : (UInt64.ofNat (extent f)).toNat = extent f := by
  have hspace := hplaced.in_space
  rw [UInt64.toNat_ofNat']
  exact Nat.mod_eq_of_lt (show _ < spaceSize by omega)

theorem toNat_endAddress_place :
    (LoadedModule.endAddress { base := f.base, size := UInt64.ofNat (extent f) }).toNat =
      f.base.toNat + extent f := by
  have hspace := hplaced.in_space
  unfold LoadedModule.endAddress Address.addSat Address.add?
  rw [toNat_extent hplaced, if_pos hspace, Option.getD_some, UInt64.toNat_add, toNat_extent hplaced]
  exact Nat.mod_eq_of_lt hspace

theorem contains_place_iff (a : Address) :
    LoadedModule.contains { base := f.base, size := UInt64.ofNat (extent f) } a = true ↔
      f.base.toNat ≤ a.toNat ∧ a.toNat < f.base.toNat + extent f := by
  rw [LoadedModule.contains, Bool.and_eq_true, decide_eq_true_iff, decide_eq_true_iff, UInt64.le_iff_toNat_le,
    UInt64.lt_iff_toNat_lt, toNat_endAddress_place hplaced]

theorem isSome_rights_iff (i : Nat) :
    (((placements f).foldl FlatMemory.place {}).rights? i).isSome = true ↔
      ∃ rva, i = f.base.toNat + rva ∧ (rva < pageSize ∨ ∃ s ∈ f.sections, Occupies s rva) := by
  have hcovered : (∃ p ∈ placements f, p.Covers i) ↔
      ∃ rva, i = f.base.toNat + rva ∧ (rva < pageSize ∨ ∃ s ∈ f.sections, Occupies s rva) := by
    simp only [placements, List.mem_cons, List.mem_map, exists_eq_or_imp, exists_exists_and_eq_and, covers_header_iff,
      covers_section_iff]
    constructor
    · rintro (⟨rva, he, hlt⟩ | ⟨s, hs, rva, he, hocc⟩)
      · exact ⟨rva, he, .inl hlt⟩
      · exact ⟨rva, he, .inr ⟨s, hs, hocc⟩⟩
    · rintro ⟨rva, he, hlt | ⟨s, hs, hocc⟩⟩
      · exact .inl ⟨rva, he, hlt⟩
      · exact .inr ⟨s, hs, rva, he, hocc⟩
  rw [← hcovered]
  by_cases hc : ∃ p ∈ placements f, p.Covers i
  · obtain ⟨p, hp, hi⟩ := hc
    rw [(FlatMemory.foldl_place_of_covers {} _ (pairwise_placements hplaced) p hp i hi).1]
    exact ⟨fun _ => ⟨p, hp, hi⟩, fun _ => rfl⟩
  · rw [(FlatMemory.foldl_place_of_not_covers {} _ i fun p hp hi => hc ⟨p, hp, hi⟩).1]
    exact ⟨fun h => absurd h Bool.false_ne_true, fun h => absurd h hc⟩

include hfile

/-- The memory of the image as placements. -/
theorem flat_loaded {headers : Memory} (hheaders : mapHeaders f {} = .ok headers) :
    (mapSections f headers f.sections).value.flat = (placements f).foldl FlatMemory.place {} := by
  obtain ⟨m, hm, hflat⟩ := mapHeaders_spec hplaced hfile
  obtain rfl : m = headers := Except.ok.inj (hm.symm.trans hheaders)
  rw [flat_mapSections hplaced hfile m f.sections fun _ hs => hs, hflat]
  rfl

/-- Whatever is mapped lies inside the module. -/
theorem rva_lt_extent {rva : Nat} (h : rva < pageSize ∨ ∃ s ∈ f.sections, Occupies s rva) : rva < extent f := by
  rcases h with hlt | ⟨s, hs, hocc⟩
  · have := pageSize_le_extent hfile
    omega
  · have := end_le_extent hfile hs (hplaced.aligned s hs)
    exact Nat.lt_of_lt_of_le hocc.2 this

theorem mapsExactly_loaded {headers : Memory} (hheaders : mapHeaders f {} = .ok headers) (width : Width) (count : Nat)
    (names : List (Address × String)) :
    let place : LoadedModule := { base := f.base, size := UInt64.ofNat (extent f) }
    MapsExactly f.file f {
      host := {
        memory := (mapSections f headers f.sections).value
        modules := [place]
        selection := some f.base
        symbols := (kept place names).foldl (fun t p => t.insert p.1 p.2) ∅ }
      place
      width
      symbolCount := count } := by
  intro place
  have hflat := flat_loaded hplaced hfile hheaders
  have hspace := hplaced.in_space
  constructor
  case place_eq => exact ⟨rfl, toNat_extent hplaced⟩
  case modules_eq => rfl
  case selected =>
    have hbase : place.contains f.base = true := by
      have hpos : 0 < extent f := Nat.lt_of_lt_of_le (by decide) (pageSize_le_extent hfile)
      exact (contains_place_iff hplaced f.base).mpr ⟨Nat.le_refl _, Nat.lt_add_of_pos_right hpos⟩
    simp [Host.selectedModule?, Host.moduleAt?, hbase]
  case mapped_iff =>
    intro i
    rw [hflat]
    exact isSome_rights_iff hplaced i
  case inside =>
    intro i hi
    rw [hflat, isSome_rights_iff hplaced] at hi
    obtain ⟨rva, rfl, hin⟩ := hi
    have := rva_lt_extent hplaced hfile hin
    omega
  case headers =>
    intro i hi
    obtain ⟨hr, hb⟩ := FlatMemory.foldl_place_of_covers {} _ (pairwise_placements hplaced) (headerPlacement f)
      List.mem_cons_self (f.base.toNat + i) ((covers_header_iff f _).mpr ⟨i, rfl, hi⟩)
    rw [hflat, hr, hb]
    refine ⟨rfl, ?_⟩
    rw [← getD_headers f.file i hi]
    congr 1
    exact Nat.add_sub_cancel_left _ i
  case sections =>
    intro s hs i hi position
    have hmem : sectionPlacement f s ∈ placements f :=
      List.mem_cons_of_mem _ (List.mem_map.mpr ⟨s, hs, rfl⟩)
    obtain ⟨hr, hb⟩ := FlatMemory.foldl_place_of_covers {} _ (pairwise_placements hplaced) (sectionPlacement f s)
      hmem position ⟨Nat.le_add_right _ _, Nat.add_lt_add_left hi _⟩
    rw [hflat, hr, hb, ← sectionRights_eq, ← getD_data]
    refine ⟨rfl, ?_⟩
    congr 1
    exact Nat.add_sub_cancel_left _ i
  case not_refused =>
    intro i
    rw [hflat, FlatMemory.refused_foldl_place]
  case symbols =>
    intro a name hname
    rcases mem_of_getElem?_foldl_insert _ _ a name hname with hmem | hnone
    · have hin := (List.mem_filter.mp hmem).2
      rw [Bool.and_eq_true] at hin
      exact (contains_place_iff hplaced a).mp hin.2
    · simp at hnone
  case unwrapped =>
    refine ⟨toNat_endAddress_place hplaced, ?_⟩
    intro s hs
    exact ⟨toNat_sectionAddress hplaced hfile hs, toNat_ofNat_roundUp hplaced hfile hs,
      end_le_extent hfile hs (hplaced.aligned s hs)⟩

end Loaded

/-- Loading an image whose parts are well placed. Its extent is the least number of whole pages that holds the headers
and all sections; loading fails exactly when that is more than the limit, and else the memory holds the headers and
the sections, with their rights and bytes, and nothing else. -/
theorem load_maps_exactly (file : Array UInt8) (f : ImageFile) (limits : LoadLimits)
    (hparse : ImageFile.parse file = .ok (.image f)) (hplaced : WellPlaced f) :
    IsLeast {n | pageSize ∣ n ∧ pageSize ≤ n ∧
      ∀ s ∈ f.sections, s.virtualAddress.toNat + s.virtualSize.toNat ≤ n} (extent f) ∧
    (limits.imageSize < extent f →
      (loadBytes file limits).run.value = .error (.imageTooLarge (extent f) limits.imageSize)) ∧
    (extent f ≤ limits.imageSize →
      ∃ loaded, (loadBytes file limits).run.value = .ok loaded ∧ MapsExactly file f loaded) := by
  obtain ⟨rfl, hfile⟩ := ImageFile.file_parse hparse
  have hload : loadBytes f.file limits = loadImage f limits := by rw [loadBytes, hparse]
  refine ⟨⟨?_, ?_⟩, ?_, ?_⟩
  · exact ⟨dvd_extent f, (extent_le_iff f hfile (dvd_extent f)).mp (Nat.le_refl _)⟩
  · rintro n ⟨hdvd, hholds⟩
    exact (extent_le_iff f hfile hdvd).mpr hholds
  · intro hlarge
    rw [hload]
    exact loadImage_value_of_large f limits hlarge
  · intro hsize
    obtain ⟨headers, hheaders, -⟩ := mapHeaders_spec hplaced hfile
    rw [hload]
    exact ⟨_, loadImage_value_of_fits f limits headers hsize hheaders, mapsExactly_loaded hplaced hfile hheaders _ _ _⟩

def rowBytes (s : SectionHeader) : List UInt8 :=
  s.rawName ++ LittleEndian.encode 4 s.virtualSize.toNat ++ LittleEndian.encode 4 s.virtualAddress.toNat ++
    LittleEndian.encode 4 s.rawSize.toNat ++ LittleEndian.encode 4 s.rawOffset.toNat ++ List.replicate 12 0 ++
    LittleEndian.encode 4 s.characteristics.toNat

/-- Code with eight bytes in the file, one section that can only be written, an empty one, and one without rights that
the file does not hold. -/
def fourSections : List SectionHeader :=
  let blank : SectionHeader :=
    { rawName := List.replicate 8 0, virtualSize := 0, virtualAddress := 0x3000, rawSize := 0, rawOffset := 0,
      characteristics := 0 }
  [{ blank with virtualSize := 0x10, virtualAddress := 0x4000, rawSize := 8, characteristics := 0x60000020 },
    { blank with virtualSize := 0x20, characteristics := 0x80000000 },
    blank,
    { blank with virtualSize := 0x1800, virtualAddress := 0x1000, rawSize := 0x1000, rawOffset := 0x100 }]

def fourSectionsHeaders : List UInt8 :=
  [0x50, 0x45, 0, 0, 0x64, 0x86, 4, 0] ++ List.replicate 12 0 ++ [0x70, 0, 0, 0, 0x0B, 2] ++ List.replicate 22 0 ++
    LittleEndian.encode 8 0x140000000 ++ List.replicate 80 0

def fourSectionsFile : Array UInt8 :=
  ([0x4D, 0x5A] ++ List.replicate 58 0 ++ [0x40, 0, 0, 0] ++ fourSectionsHeaders ++
    fourSections.flatMap rowBytes).toArray

theorem parse_fourSectionsFile :
    ∃ f, ImageFile.parse fourSectionsFile = .ok (.image f) ∧ f.file = fourSectionsFile ∧ f.base = 0x140000000 ∧
      f.sections = fourSections := by
  have hsize : fourSectionsFile.size = 360 := by decide +kernel
  have hslice (offset count : Nat) (hin : offset + count ≤ 360) :
      Bytes.slice? fourSectionsFile offset count = some (Bytes.part fourSectionsFile offset count) :=
    Bytes.slice?_eq_part _ _ _ (hsize ▸ hin)
  have hkind : ImageFile.kind fourSectionsFile = .image := by
    rw [ImageFile.kind, ImageFile.startsWith, hslice _ _ (by decide)]
    decide +kernel
  have hprobe : ImageFile.probe? fourSectionsFile = some (64, .bits64) := by
    have hnt : Bytes.field (Bytes.part fourSectionsFile 0 64) 0x3C 4 = 64 := by decide +kernel
    simp only [ImageFile.probe?, hslice 0 64 (by decide), bind, Option.bind, hnt, hslice 64 120 (by decide)]
    decide +kernel
  have hrows : ImageFile.sectionTable? fourSectionsFile 200 4 = some fourSections := by
    rw [ImageFile.sectionTable?, Bytes.read?_eq_part _ _ _ (by rw [hsize]; decide)]
    decide +kernel
  have hheaders : Bytes.slice? fourSectionsFile 64 136 = some fourSectionsHeaders := by
    rw [hslice _ _ (by decide)]
    decide +kernel
  have hparsed := ImageFile.parseHeaders_eq fourSectionsFile 64 .bits64 fourSectionsHeaders [] fourSections hheaders
    (by decide +kernel) (by decide +kernel) (by decide +kernel) hrows
  have himage : ImageFile.parse fourSectionsFile =
      (ImageFile.parseHeaders fourSectionsFile 64 .bits64).map .image := by
    rw [ImageFile.parse, if_neg (by rw [hsize]; decide), hkind]
    simp only [hprobe]
  rw [hparsed] at himage
  exact ⟨_, himage, rfl, by decide +kernel, rfl⟩

theorem wellPlaced_fourSections {f : ImageFile} (hfile : f.file = fourSectionsFile) (hbase : f.base = 0x140000000)
    (hsections : f.sections = fourSections) : WellPlaced f ∧ extent f = 0x5000 := by
  have hextent : extent f = 0x5000 := by
    rw [extent, hsections, hfile]
    decide +kernel
  refine ⟨⟨?_, ?_, ?_, ?_, ?_⟩, hextent⟩
  · rw [hbase]
    decide
  · rw [hsections]
    decide
  · rw [hsections]
    intro s hs rva hrva hocc
    have hbehind : ∀ s ∈ fourSections, pageSize ≤ s.virtualAddress.toNat := by decide
    exact absurd (Nat.lt_of_lt_of_le hrva (hbehind s hs)) (Nat.not_lt.mpr hocc.1)
  · have hapart : fourSections.Pairwise fun s t =>
        s.virtualAddress.toNat + roundUp s.virtualSize.toNat ≤ t.virtualAddress.toNat ∨
          t.virtualAddress.toNat + roundUp t.virtualSize.toNat ≤ s.virtualAddress.toNat := by decide
    rw [hsections]
    refine hapart.imp ?_
    intro s t hst rva hs ht
    unfold Occupies at hs ht
    omega
  · rw [hextent, hbase]
    decide

theorem load_maps_exactly_four_sections :
    ∃ f loaded, ImageFile.parse fourSectionsFile = .ok (.image f) ∧ WellPlaced f ∧ extent f = 0x5000 ∧
      (loadBytes fourSectionsFile {}).run.value = .ok loaded ∧ MapsExactly fourSectionsFile f loaded := by
  obtain ⟨f, hparse, hfile, hbase, hsections⟩ := parse_fourSectionsFile
  obtain ⟨hplaced, hextent⟩ := wellPlaced_fourSections hfile hbase hsections
  obtain ⟨-, -, hload⟩ := load_maps_exactly fourSectionsFile f {} hparse hplaced
  obtain ⟨loaded, hloaded, hexact⟩ := hload (by rw [hextent]; decide)
  exact ⟨f, loaded, hparse, hplaced, hextent, hloaded, hexact⟩

end Loading

end FlowGuard
