import FlowGuard.Guard.Entry
import FlowGuard.Header.GuardBlock
import FlowGuard.Host.Basic
import FlowGuard.Image.Bytes

/-!
Specimens: small images made to order. Headers come first, then the load configuration at 0x1000, the
guard table at 0x1100, and code from 0x10000 on. Offsets in the file are the same as in memory, so a
specimen can be mapped directly or written as a file.
-/

namespace FlowGuard

structure Specimen where
  base : Address
  width : Width
  flags : UInt32 := 0x00800500
  /-- Metadata bytes of a table slot, below sixteen. -/
  metadataSize : UInt8 := 1
  /-- Table slots: function and flags. -/
  slots : List (UInt32 × UInt8) := []
  /-- Functions with a stored hash. -/
  hashes : List (UInt32 × UInt64) := []
  /-- Bytes to place. -/
  code : List (UInt32 × List UInt8) := []
  symbols : List (UInt32 × String) := []
  codeSize : UInt32 := 0x4000
  directoryCount : UInt32 := 16
  hasLoadConfig : Bool := true
  /-- The size that the load configuration declares, if not its own. -/
  declaredSize : Option UInt32 := none

namespace Specimen

def ntOffset : Nat := 0x80
def loadConfigRva : Nat := 0x1000
def tableRva : Nat := 0x1100
def codeRva : Nat := 0x10000

def withMetadataSize (s : Specimen) (n : UInt8) : Specimen :=
  { s with metadataSize := n &&& 0x0F }

/-- Replaces the flags, except for the metadata size among them. -/
def withFlags (s : Specimen) (flags : UInt32) : Specimen :=
  { s with flags := flags &&& 0x0FFFFFFF }

def withCodeSize (s : Specimen) (n : UInt32) : Specimen :=
  { s with codeSize := n }

def withDirectoryCount (s : Specimen) (n : UInt32) : Specimen :=
  { s with directoryCount := n }

def withoutLoadConfig (s : Specimen) : Specimen :=
  { s with hasLoadConfig := false }

def withDeclaredSize (s : Specimen) (n : UInt32) : Specimen :=
  { s with declaredSize := some n }

/-- A function in the table with a hash stored right below it. -/
def hashedFunction (s : Specimen) (rva : UInt32) (hash : UInt64) : Specimen :=
  { s with slots := s.slots ++ [(rva, 0x08)], hashes := s.hashes ++ [(rva, hash)] }

def plainFunction (s : Specimen) (rva : UInt32) : Specimen :=
  { s with slots := s.slots ++ [(rva, 0)] }

def withCode (s : Specimen) (rva : UInt32) (bytes : List UInt8) : Specimen :=
  { s with code := s.code ++ [(rva, bytes)] }

def hashLoad (s : Specimen) (rva : UInt32) (hash : UInt64) : Specimen :=
  s.withCode rva ([0x49, 0xBA] ++ LittleEndian.encode 8 hash.toNat)

def withSymbol (s : Specimen) (rva : UInt32) (name : String) : Specimen :=
  { s with symbols := s.symbols ++ [(rva, name)] }

def tableAddress (s : Specimen) : Address :=
  s.base + UInt64.ofNat tableRva

/-- Bytes of code: whole pages, at least one. -/
def codeBytes (s : Specimen) : Nat :=
  max 1 ((s.codeSize.toNat + 0xFFF) / 0x1000) * 0x1000

def imageSize (s : Specimen) : Nat :=
  codeRva + s.codeBytes

def loadedModule (s : Specimen) : LoadedModule :=
  { base := s.base, size := UInt64.ofNat s.imageSize }

/-- Bytes of the load configuration up to the end of its guard block. -/
def configSize (w : Width) : Nat :=
  w.guardOffset + w.guardSize

/-- The flags with the metadata size in their four highest bits. -/
def guardFlags (s : Specimen) : UInt32 :=
  s.flags ||| (s.metadataSize.toUInt32 <<< 28)

def short (offset n : Nat) : Nat × List UInt8 :=
  (offset, LittleEndian.encode 2 n)

def long (offset n : Nat) : Nat × List UInt8 :=
  (offset, LittleEndian.encode 4 n)

def headerPatches (s : Specimen) : List (Nat × List UInt8) :=
  let file := ntOffset + 4
  let optional := ntOffset + Width.ntPreamble
  let (machine, magic, characteristics) := match s.width with
    | .bits32 => (0x14C, 0x10B, 0x0102)
    | .bits64 => (0x8664, 0x20B, 0x0022)
  [(0, [0x4D, 0x5A]), long Header.ntOffsetField.toNat ntOffset, (ntOffset, [0x50, 0x45, 0, 0]),
    short file machine, short (file + 2) 2, short (file + 16) s.width.optionalHeaderSize,
    short (file + 18) characteristics, short optional magic, long (optional + 4) s.codeBytes,
    long (optional + 16) codeRva, long (optional + 20) codeRva,
    match s.width with
    | .bits32 => long (optional + 28) s.base.toNat
    | .bits64 => (optional + 24, LittleEndian.encode 8 s.base.toNat),
    long (optional + 32) 0x1000, long (optional + 36) 0x1000, short (optional + 40) 6,
    short (optional + 48) 6, long (optional + 56) s.imageSize, long (optional + 60) 0x1000,
    short (optional + 68) 3, long (ntOffset + s.width.countOffset) s.directoryCount.toNat]

def directoryPatches (s : Specimen) : List (Nat × List UInt8) :=
  let entry := ntOffset + s.width.directoriesOffset
    + Header.loadConfigIndex.toNat * Header.directoryEntrySize
  if s.hasLoadConfig then [long entry loadConfigRva, long (entry + 4) (configSize s.width)] else []

/-- One entry of the section table. -/
def sectionPatches (start : Nat) (name : List UInt8) (rva size flags : Nat) :
    List (Nat × List UInt8) :=
  [(start, name), long (start + 8) size, long (start + 12) rva, long (start + 16) size,
    long (start + 20) rva, long (start + 36) flags]

/-- The section table: data up to the code, then the code. -/
def sectionTablePatches (s : Specimen) : List (Nat × List UInt8) :=
  let start := ntOffset + Width.ntPreamble + s.width.optionalHeaderSize
  sectionPatches start [0x2E, 0x72, 0x64, 0x61, 0x74, 0x61, 0, 0] loadConfigRva
      (codeRva - loadConfigRva) 0x40000040
    ++ sectionPatches (start + 40) [0x2E, 0x74, 0x65, 0x78, 0x74, 0, 0, 0] codeRva s.codeBytes 0x60000020

def configPatches (s : Specimen) : List (Nat × List UInt8) :=
  let pointer := LittleEndian.encode s.width.pointerSize
  [long loadConfigRva ((s.declaredSize.map UInt32.toNat).getD (configSize s.width)),
    (loadConfigRva + s.width.guardOffset,
      pointer 0 ++ pointer 0 ++ pointer s.tableAddress.toNat ++ pointer s.slots.length
        ++ LittleEndian.encode 4 s.guardFlags.toNat)]

def slotPatches (metadata : Nat) (offset : Nat) : List (UInt32 × UInt8) → List (Nat × List UInt8)
  | [] => []
  | (rva, flags) :: rest =>
    long offset rva.toNat :: (if 0 < metadata then [(offset + 4, [flags])] else [])
      ++ slotPatches metadata (offset + 4 + metadata) rest

/-- Stored hashes, each right below its function. -/
def hashPatches (s : Specimen) : List (Nat × List UInt8) :=
  s.hashes.map fun (rva, hash) => ((rva.toUInt64 - 8).toNat, LittleEndian.encode 8 hash.toNat)

def codePatches (s : Specimen) : List (Nat × List UInt8) :=
  s.code.map fun (rva, bytes) => (rva.toNat, bytes)

/-- Everything that is written over zeros, in order. -/
def patches (s : Specimen) : List (Nat × List UInt8) :=
  s.headerPatches ++ s.directoryPatches ++ s.sectionTablePatches ++ s.configPatches
    ++ slotPatches s.metadataSize.toNat tableRva s.slots ++ s.hashPatches ++ s.codePatches

/-- The image as a file. What does not fit is left out. -/
def file (s : Specimen) : Array UInt8 :=
  s.patches.foldl (fun image (offset, bytes) => Bytes.put image offset bytes)
    (Array.replicate s.imageSize 0)

def mapInto (s : Specimen) (h : Host) : Host :=
  let memory := (h.memory.map s.base (UInt64.ofNat codeRva) Rights.readOnly).map
    (s.base + UInt64.ofNat codeRva) (UInt64.ofNat s.codeBytes) Rights.code
  let memory := (memory.write s.base s.file.toList).1
  let h := { h.addModule s.loadedModule with memory }
  s.symbols.foldl (fun h (rva, name) => h.addSymbol (s.base + rva.toUInt64) name) h

/-- A host with only the image, which is selected. -/
def build (s : Specimen) : Host :=
  (s.mapInto {}).select s.base

end Specimen

end FlowGuard
