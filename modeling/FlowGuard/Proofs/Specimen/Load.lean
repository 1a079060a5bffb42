import FlowGuard.Image.Load
import FlowGuard.Proofs.Requests
import FlowGuard.Proofs.Specimen.Mapped
import FlowGuard.Proofs.Specimen.Parse

/-!
Loading the file of a specimen. The headers and the two sections are mapped one behind the other, each with its
part of the file; what results is a mapping of the specimen and so the memory of the image mapped as a whole.
-/

namespace FlowGuard

namespace Loading

/-- What is loaded when nothing goes wrong and the file names no symbol. -/
theorem loadImage_value (f : ImageFile) (limits : LoadLimits) (w : Width) (headers : Memory)
    (hwidth : f.machine.width? = some w) (hsize : extent f ≤ limits.imageSize)
    (hheaders : mapHeaders f {} = .ok headers) (hexports : f.exports = .ok []) (hsymbols : f.symbols = []) :
    (loadImage f limits).run.value = .ok {
      host := {
        memory := (mapSections f headers f.sections).value
        modules := [{ base := f.base, size := UInt64.ofNat (extent f) }]
        selection := some f.base }
      place := { base := f.base, size := UInt64.ofNat (extent f) }
      width := w
      symbolCount := 0 } := by
  have hnames : (exportNames f).value = [] := by simp [exportNames, hexports]
  have hnone : symbolNames f = [] := by simp [symbolNames, hsymbols]
  have hw : (widthOf f).value = w := by simp [widthOf, hwidth]
  have hvalue := loadImage_value_of_fits f limits headers hsize hheaders
  rw [hnames, hnone, hw] at hvalue
  exact hvalue

/-- A section all of whose bytes stand in the file. -/
theorem mapSection_value (f : ImageFile) (m m' : Memory) (s : SectionHeader) (bytes : List UInt8)
    (hdata : s.data? f.file = some bytes) (hpos : 0 < bytes.length)
    (hsize : s.virtualSize.toNat = bytes.length)
    (hwrite : (m.map (f.base + s.virtualAddress.toUInt64) (UInt64.ofNat (roundUp bytes.length))
      (sectionRights s)).write (f.base + s.virtualAddress.toUInt64) bytes = (m', .ok ())) :
    (mapSection f m s).value = m' := by
  have hne : ¬bytes.length = 0 := by omega
  simp [mapSection, hdata, hsize, hne, hwrite]

end Loading

namespace Specimen

open Loading

theorem roundUp_of_aligned (n : Nat) : roundUp (n * 0x1000) = n * 0x1000 := by
  unfold roundUp
  simp only [pageSize]
  omega

/-- The image extends up to the end of its code. -/
theorem extent_eq {s : Specimen} {f : ImageFile} (hfile : f.file = s.file)
    (hsections : f.sections = [dataSection, s.codeSection]) (hcode : s.codeBytes < 2 ^ 32) :
    extent f = s.imageSize := by
  have hsize : (UInt32.ofNat s.codeBytes).toNat = s.codeBytes := by
    rw [UInt32.toNat_ofNat']
    omega
  have hdata : sectionEnd dataSection = 0x10000 := by decide
  have hend : sectionEnd s.codeSection = s.imageSize := by
    show (0x10000 : UInt32).toNat + max (UInt32.ofNat s.codeBytes).toNat
      (min (UInt32.ofNat s.codeBytes).toNat (UInt32.ofNat s.codeBytes).toNat) = _
    rw [hsize, Nat.min_self, Nat.max_self]
    rfl
  have hbig : s.imageSize = 0x10000 + s.codeBytes := rfl
  obtain ⟨n, hn⟩ := s.codeBytes_aligned
  have hheader : roundUp (min s.imageSize pageSize) = 0x1000 := by
    rw [Nat.min_eq_right (by simp only [pageSize]; omega)]
    rfl
  have hmax : max (max 0x1000 0x10000) s.imageSize = (0x10 + n) * 0x1000 := by omega
  rw [extent, hsections, hfile, size_file, hheader]
  simp only [List.map_cons, List.map_nil, List.foldl_cons, List.foldl_nil, hdata, hend, hmax,
    roundUp_of_aligned]
  omega

theorem sectionRights_codeSection (s : Specimen) : sectionRights s.codeSection = .code := by
  have hrow : sectionRights s.codeSection =
      sectionRights { dataSection with characteristics := 0x60000020 } := rfl
  rw [hrow]
  decide

section Sections

variable {s : Specimen} {f : ImageFile} (hfile : f.file = s.file) (hbase : f.base = s.base)
include hfile hbase

theorem mapHeaders_eq (m : Memory) (hok : (s.mapPart m 0 0x1000 .readOnly).2 = .ok ()) :
    mapHeaders f m = .ok (s.mapPart m 0 0x1000 .readOnly).1 := by
  have hpart : (f.file.extract 0 pageSize).toList = Bytes.part s.file 0 0x1000 := by
    rw [hfile, Array.toList_extract, List.extract_eq_take_drop]
    rfl
  have hwrite : (m.map f.base (UInt64.ofNat pageSize) .readOnly).write f.base
      (f.file.extract 0 pageSize).toList = ((s.mapPart m 0 0x1000 .readOnly).1, .ok ()) := by
    rw [hpart, hbase, ← s.address_zero, ← hok]
    rfl
  simp only [mapHeaders, hwrite]

/-- A section that lies in the file where it lies in memory. -/
theorem mapSection_eq (m : Memory) (row : SectionHeader) (offset n : Nat) (rights : Rights)
    (hrow : row.virtualAddress.toUInt64 = UInt64.ofNat offset ∧ row.rawOffset.toNat = offset ∧
      row.virtualSize.toNat = n * 0x1000 ∧ row.rawSize.toNat = n * 0x1000 ∧ sectionRights row = rights)
    (hpos : 0 < n) (hin : offset + n * 0x1000 ≤ s.imageSize)
    (hok : (s.mapPart m offset (n * 0x1000) rights).2 = .ok ()) :
    (mapSection f m row).value = (s.mapPart m offset (n * 0x1000) rights).1 := by
  obtain ⟨haddress, hraw, hvirtual, hsize, hrights⟩ := hrow
  have hlen : (Bytes.part s.file offset (n * 0x1000)).length = n * 0x1000 :=
    Bytes.length_part _ _ _ (by rwa [size_file])
  have hdata : row.data? f.file = some (Bytes.part s.file offset (n * 0x1000)) := by
    rw [SectionHeader.data?, SectionHeader.fileSize, hraw, hvirtual, hsize, Nat.min_self, hfile]
    exact Bytes.read?_eq_part _ _ _ (by rwa [size_file])
  apply mapSection_value f m _ row _ hdata (by omega) (by omega)
  rw [hlen, roundUp_of_aligned, hrights, haddress, hbase, ← hok]
  rfl

/-- The headers and both sections are mapped one behind the other. -/
theorem isMapped_loaded (hsections : f.sections = [dataSection, s.codeSection])
    (hcode : s.codeBytes < 2 ^ 32) (hspace : s.base.toNat + s.imageSize ≤ spaceSize) :
    ∃ headers, mapHeaders f {} = .ok headers ∧
      s.IsMapped (mapSections f headers f.sections).value := by
  have hpos := s.codeBytes_pos
  have hbig : s.imageSize = 0x10000 + s.codeBytes := rfl
  have hrva : codeRva = 0x10000 := rfl
  have hword : spaceSize = 2 ^ 64 := rfl
  obtain ⟨n, hn⟩ := s.codeBytes_aligned
  let m₁ := (s.mapPart {} 0 0x1000 .readOnly).1
  let m₂ := (s.mapPart m₁ 0x1000 (0xF * 0x1000) .readOnly).1
  obtain ⟨hok₁, -, hr₁, hf₁, hg₁⟩ := mapPart_spec s {} 0 0x1000 .readOnly (by omega) (by omega) (by omega)
    (by omega)
  obtain ⟨hok₂, -, hr₂, hf₂, hg₂⟩ := mapPart_spec s m₁ 0x1000 (0xF * 0x1000) .readOnly (by omega) (by omega)
    (by omega) (by omega)
  obtain ⟨hok₃, -, hr₃, hf₃, hg₃⟩ := mapPart_spec s m₂ 0x10000 (n * 0x1000) .code (by omega) (by omega)
    (by omega) (by omega)
  have hloaded : (mapSections f m₁ f.sections).value = (s.mapPart m₂ 0x10000 (n * 0x1000) .code).1 := by
    have hcodeSize : (UInt32.ofNat s.codeBytes).toNat = n * 0x1000 := by
      rw [UInt32.toNat_ofNat']
      omega
    rw [hsections]
    simp only [mapSections, Traced.value_bind, Traced.value_pure]
    rw [mapSection_eq hfile hbase m₁ dataSection 0x1000 0xF .readOnly (by decide) (by decide) (by omega) hok₂,
      mapSection_eq hfile hbase m₂ s.codeSection 0x10000 n .code
        ⟨rfl, rfl, hcodeSize, hcodeSize, sectionRights_codeSection s⟩ (by omega) (by omega) hok₃]
  refine ⟨m₁, mapHeaders_eq hfile hbase {} hok₁, ?_⟩
  rw [hloaded]
  have h₁ : s.HoldsUpTo 0x1000 m₁ :=
    s.holdsUpTo_empty.mapPart 0x1000 .readOnly (by omega) (by omega) (by omega) (by omega)
  have h₂ : s.HoldsUpTo 0x10000 m₂ :=
    h₁.mapPart (0xF * 0x1000) .readOnly (by omega) (by omega) (by omega) (by omega)
  have h₃ := h₂.mapPart (n * 0x1000) .code (by omega) (by omega) (by omega) (by omega)
  constructor
  · rw [hbig, hn]
    exact h₃
  · intro page
    have hdata := reaches_append page (Nat.le_add_right s.base.toNat 0x1000)
      (show s.base.toNat + 0x1000 ≤ s.base.toNat + 0x10000 by omega)
    rw [hr₃, hr₂, hr₁, hbig, hn, hrva, ← Nat.add_assoc]
    simp only [Nat.add_zero, Nat.add_assoc, Nat.reduceMul, Nat.reduceAdd, hdata]
    by_cases hlow : Reaches s.base.toNat (s.base.toNat + 0x1000) page
    · simp [hlow]
    · simp [hlow, Memory.rightsOf?]
  · rw [hf₃, hf₂, hf₁]
  · rw [hg₃, hg₂, hg₁]

end Sections

/-- Loading the file of a specimen gives the host that maps it, without its symbols. -/
theorem loadBytes_file {s : Specimen} (limits : LoadLimits) (hs : s.SparesBelow 0x1000)
    (hcode : s.codeBytes < 2 ^ 32) (hlow : s.width = .bits32 → s.base.toNat < 2 ^ 32)
    (hfew : s.directoryCount.toNat ≤ 16) (hspace : s.base.toNat + s.imageSize ≤ spaceSize)
    (hlimit : s.imageSize ≤ limits.imageSize) :
    (loadBytes s.file limits).run.value = .ok {
      host := { s.build with symbols := ∅ }
      place := s.loadedModule
      width := s.width
      symbolCount := 0 } := by
  obtain ⟨f, hparse, hfile, hwidth, hbase, hsections, hexports, hsymbols⟩ := parse_file hs hcode hlow hfew
  obtain ⟨headers, hheaders, hmapped⟩ := isMapped_loaded hfile hbase hsections hcode hspace
  have hextent := extent_eq hfile hsections hcode
  have hnoExports : f.exports = .ok [] := by
    unfold ImageFile.exports
    cases hd : f.directories.head? with
    | none => rfl
    | some d => simp [hexports d hd]
  have hnoSymbols : f.symbols = [] := by
    simp [ImageFile.symbols, ImageFile.symbolTable?, hsymbols]
  have hvalue := loadImage_value f limits s.width headers hwidth (by omega) hheaders hnoExports hnoSymbols
  rw [hmapped.unique (isMapped_imageMemory s hspace), hextent, hbase] at hvalue
  rw [loadBytes, hparse, build_eq]
  exact hvalue

end Specimen

end FlowGuard
