import FlowGuard.Image.Bytes
import FlowGuard.Image.Error
import FlowGuard.Image.Foreign.Coff
import FlowGuard.Image.Foreign.Elf
import FlowGuard.Image.Foreign.MachO
import FlowGuard.Image.Foreign.Xcoff
import FlowGuard.Image.Machine
import FlowGuard.Memory.Page

/-!
The headers of an image file. A file is told by its first bytes; an image then has a DOS header that
leads to the NT headers, an optional header of either width with its data directories, and a section
table. The checks are made in the order of the file.
-/

namespace FlowGuard

structure SectionHeader where
  /-- Eight bytes. -/
  rawName : List UInt8
  virtualSize : UInt32
  virtualAddress : UInt32
  rawSize : UInt32
  rawOffset : UInt32
  characteristics : UInt32
  deriving DecidableEq, Repr

namespace SectionHeader

def size : Nat := 40

def ofBytes (record : List UInt8) : SectionHeader where
  rawName := record.take 8
  virtualSize := UInt32.ofNat (Bytes.field record 8 4)
  virtualAddress := UInt32.ofNat (Bytes.field record 12 4)
  rawSize := UInt32.ofNat (Bytes.field record 16 4)
  rawOffset := UInt32.ofNat (Bytes.field record 20 4)
  characteristics := UInt32.ofNat (Bytes.field record 36 4)

def fileSize (s : SectionHeader) : Nat :=
  min s.virtualSize.toNat s.rawSize.toNat

def data? (s : SectionHeader) (file : Array UInt8) : Option (List UInt8) :=
  Bytes.read? file s.rawOffset.toNat s.fileSize

/-- The bytes of the section from a relative address on, if that address stands in the file. -/
def dataFrom? (s : SectionHeader) (file : Array UInt8) (rva : UInt32) : Option (List UInt8) :=
  let offset := rva.toNat - s.virtualAddress.toNat
  if s.virtualAddress ≤ rva ∧ offset < s.fileSize then
    Bytes.slice? file (s.rawOffset.toNat + offset) (s.fileSize - offset)
  else none

/-- The rights that the characteristics give; executable code can be read. -/
def rights (s : SectionHeader) : Rights :=
  let has (bit : UInt32) : Bool := s.characteristics &&& bit != 0
  { read := has 0x40000000 || has 0x20000000
    write := has 0x80000000
    execute := has 0x20000000 }

end SectionHeader

structure DataDirectory where
  rva : UInt32
  size : UInt32
  deriving DecidableEq, Repr

structure ImageFile where
  file : Array UInt8
  machine : Machine
  /-- Which optional header the file has. -/
  width : Width
  base : Address
  directories : List DataDirectory
  sections : List SectionHeader
  symbolOffset : UInt32
  symbolCount : UInt32

inductive FileContents where
  | image (f : ImageFile)
  /-- A file of another format, whose tables are in order. -/
  | foreign (format : ForeignFormat)

namespace ImageFile

/-- The kinds of file that are told apart by their first bytes. -/
inductive FileKind where
  | image
  | elf (w : Width)
  | machO (l : MachO.Layout)
  | xcoff (w : Width)
  | object
  | unsupported
  | anonymousObject
  | unknown
  deriving DecidableEq, Repr

def startsWith (file : Array UInt8) (bytes : List UInt8) : Bool :=
  Bytes.slice? file 0 bytes.length == some bytes

/-- The first bytes of the formats that are known but not read. -/
def unsupportedStarts : List (List UInt8) :=
  [[0x21, 0x3C, 0x61, 0x72, 0x63, 0x68, 0x3E, 0x0A], [0x21, 0x3C, 0x74, 0x68, 0x69, 0x6E, 0x3E, 0x0A],
    [0x64, 0x79, 0x6C, 0x64, 0x5F, 0x76, 0x31, 0x20], [0xCA, 0xFE, 0xBA, 0xBE], [0xCA, 0xFE, 0xBA, 0xBF],
    [0x00, 0x00, 0xFF, 0xFF, 0x00, 0x00]]

/-- The first bytes of object files, by processor. -/
def objectStarts : List (List UInt8) :=
  [[0xC4, 0x01], [0x64, 0xAA], [0x41, 0xA6], [0xF0, 0x01], [0xF1, 0x01], [0xF2, 0x01], [0x4C, 0x01],
    [0x64, 0x86]]

def foreignStarts : List (List UInt8 × FileKind) :=
  [([0x7F, 0x45, 0x4C, 0x46, 1], .elf .bits32), ([0x7F, 0x45, 0x4C, 0x46, 2], .elf .bits64),
    ([0xFE, 0xED, 0xFA, 0xCE], .machO ⟨.big, .bits32⟩), ([0xCE, 0xFA, 0xED, 0xFE], .machO ⟨.little, .bits32⟩),
    ([0xFE, 0xED, 0xFA, 0xCF], .machO ⟨.big, .bits64⟩), ([0xCF, 0xFA, 0xED, 0xFE], .machO ⟨.little, .bits64⟩),
    ([0x00, 0x00, 0xFF, 0xFF, 0x02, 0x00], .anonymousObject), ([0x01, 0xDF], .xcoff .bits32),
    ([0x01, 0xF7], .xcoff .bits64)]

def kind (file : Array UInt8) : FileKind :=
  if startsWith file [0x4D, 0x5A] then .image
  else if unsupportedStarts.any (startsWith file) then .unsupported
  else if objectStarts.any (startsWith file) then .object
  else ((foreignStarts.find? fun (start, _) => startsWith file start).map Prod.snd).getD .unknown

def optionalFixed : Width → Nat
  | .bits32 => 96
  | .bits64 => 112

def widthOfMagic? (magic : Nat) : Option Width :=
  if magic = 0x10B then some .bits32 else if magic = 0x20B then some .bits64 else none

/-- Position of the NT headers and the width of the optional header, if the file is an image at all. -/
def probe? (file : Array UInt8) : Option (Nat × Width) := do
  let dos ← Bytes.slice? file 0 64
  let nt := Bytes.field dos 0x3C 4
  let headers ← Bytes.slice? file nt 120
  if headers.take 4 ≠ [0x50, 0x45, 0, 0] then none
  let width ← widthOfMagic? (Bytes.field headers 24 2)
  return (nt, width)

def sectionTable? (file : Array UInt8) (offset count : Nat) : Option (List SectionHeader) :=
  (Bytes.read? file offset (count * SectionHeader.size)).map fun bytes =>
    (Bytes.parts SectionHeader.size count bytes).map SectionHeader.ofBytes

def imageBase (w : Width) (optional : List UInt8) : Address :=
  match w with
  | .bits32 => UInt64.ofNat (Bytes.field optional 28 4)
  | .bits64 => UInt64.ofNat (Bytes.field optional 24 8)

def parseHeaders (file : Array UInt8) (nt : Nat) (w : Width) : Except ParseError ImageFile := do
  let fixed := optionalFixed w
  let headers ← require (Bytes.slice? file nt (24 + fixed)) .ntHeaders
  let optional := headers.drop 24
  let optionalSize := Bytes.field headers 20 2
  if optionalSize < fixed then throw .optionalHeaderTooSmall
  let extra ← require (Bytes.read? file (nt + 24 + fixed) (optionalSize - fixed)) .optionalHeaderSize
  let directoryCount := Bytes.field optional (fixed - 4) 4
  if extra.length < directoryCount * 8 then throw .directoryCount
  let directories := (Bytes.parts 8 directoryCount extra).map fun entry =>
    { rva := UInt32.ofNat (Bytes.field entry 0 4), size := UInt32.ofNat (Bytes.field entry 4 4) }
  let sections ← require (sectionTable? file (nt + 24 + optionalSize) (Bytes.field headers 6 2))
    .sectionTable
  return {
    file
    machine := Machine.ofCode (Bytes.field headers 4 2)
    width := w
    base := imageBase w optional
    directories
    sections
    symbolOffset := UInt32.ofNat (Bytes.field headers 12 4)
    symbolCount := UInt32.ofNat (Bytes.field headers 16 4) }

def parse (file : Array UInt8) : Except ParseError FileContents :=
  if file.size < 16 then .error .noMagic
  else
    match kind file with
    | .image =>
      match probe? file with
      | none => .error .notAnImage
      | some (nt, w) => (parseHeaders file nt w).map .image
    | .elf w => ((Elf.check file w).mapError .elf).map fun _ => .foreign .elf
    | .machO l => ((MachO.check file l).mapError .machO).map fun _ => .foreign .machO
    | .xcoff w => ((Xcoff.check file w).mapError .xcoff).map fun _ => .foreign .xcoff
    | .object => do
      Coff.check file (← Coff.header file)
      return .foreign .coff
    | .unsupported => .error .unsupportedFormat
    | .anonymousObject =>
      if Coff.isBig file then do
        Coff.check file (← Coff.bigHeader file)
        return .foreign .coff
      else .error .unknownAnonymousObject
    | .unknown => .error .unknownMagic

end ImageFile

end FlowGuard
