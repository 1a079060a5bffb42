import FlowGuard.Folder
import FlowGuard.Memory.Error

/-!
Why an image file is not accepted. The wording of each cause stands here and nowhere else.
-/

namespace FlowGuard

inductive ElfError where
  | header
  | unsupported
  | segmentCount
  | segmentSize
  | segmentTable
  | sectionSize
  | firstSection
  | sectionTable
  | namesMissing
  | namesIndex
  | namesSize
  | symbols
  | sectionIndex
  | stringsKind
  | stringsSize
  | extendedIndices
  | relocationTarget
  deriving DecidableEq, Repr

def ElfError.message : ElfError → String
  | header => "Invalid ELF header size or alignment"
  | unsupported => "Unsupported ELF header"
  | segmentCount => "Missing ELF section headers for e_phnum overflow"
  | segmentSize => "Invalid ELF program header entry size"
  | segmentTable => "Invalid ELF program header size or alignment"
  | sectionSize => "Invalid ELF section header entry size"
  | firstSection => "Invalid ELF section header offset or size"
  | sectionTable => "Invalid ELF section header offset/size/alignment"
  | namesMissing => "Missing ELF e_shstrndx"
  | namesIndex => "Invalid ELF e_shstrndx"
  | namesSize => "Invalid ELF shstrtab size"
  | symbols => "Invalid ELF symbol table data"
  | sectionIndex => "Invalid ELF section index"
  | stringsKind => "Invalid ELF string section type"
  | stringsSize => "Invalid ELF string section offset or size"
  | extendedIndices => "Invalid ELF symtab_shndx data"
  | relocationTarget => "Invalid ELF sh_info for relocation section"

inductive MachOError where
  | header
  | commandSize
  | sectionCount
  | symbols
  deriving DecidableEq, Repr

def MachOError.message : MachOError → String
  | header => "Invalid Mach-O header size or alignment"
  | commandSize => "Invalid Mach-O command size"
  | sectionCount => "Invalid Mach-O number of sections"
  | symbols => "Invalid Mach-O symbol table offset or size"

inductive XcoffError where
  | header
  | auxiliaryHeader
  | sectionTable
  | symbols
  | strings
  deriving DecidableEq, Repr

def XcoffError.message : XcoffError → String
  | header => "Invalid XCOFF header size or alignment"
  | auxiliaryHeader => "Invalid XCOFF auxiliary header size"
  | sectionTable => "Invalid XCOFF section headers"
  | symbols => "Invalid XCOFF symbol table offset or size"
  | strings => "Missing XCOFF string table"

inductive ParseError where
  | noMagic
  | unsupportedFormat
  | unknownAnonymousObject
  | elf (cause : ElfError)
  | machO (cause : MachOError)
  | xcoff (cause : XcoffError)
  | objectHeader
  | bigObjectHeader
  | unknownMagic
  | notAnImage
  | ntHeaders
  | optionalHeaderTooSmall
  | optionalHeaderSize
  | directoryCount
  | sectionTable
  | symbolTable
  | stringTable
  deriving DecidableEq, Repr

def ParseError.message : ParseError → String
  | noMagic => "Could not read file magic"
  | unsupportedFormat => "Unsupported file format"
  | unknownAnonymousObject => "Unknown anon object file"
  | elf e => e.message
  | machO e => e.message
  | xcoff e => e.message
  | objectHeader => "Invalid COFF file header size or alignment"
  | bigObjectHeader => "Invalid COFF bigobj file header size or alignment"
  | unknownMagic => "Unknown file magic"
  | notAnImage => "Unknown MS-DOS file"
  | ntHeaders => "Invalid PE headers offset or size"
  | optionalHeaderTooSmall => "PE optional header size is too small"
  | optionalHeaderSize => "Invalid PE optional header size"
  | directoryCount => "Invalid PE number of RVA and sizes"
  | sectionTable => "Invalid COFF/PE section headers"
  | symbolTable => "Invalid COFF symbol table offset or size"
  | stringTable => "Missing COFF string table"

def require {ε α : Type} (x : Option α) (e : ε) : Except ε α :=
  match x with
  | some a => .ok a
  | none => .error e

def demand {ε : Type} (condition : Bool) (e : ε) : Except ε Unit :=
  if condition then .ok () else .error e

/-- The formats that are read far enough to be named, but are not images. -/
inductive ForeignFormat where
  | elf
  | machO
  | xcoff
  | coff
  deriving DecidableEq, Repr

def ForeignFormat.name : ForeignFormat → String
  | elf => "Elf"
  | machO => "MachO"
  | xcoff => "Xcoff"
  | coff => "Coff"

inductive ExportError where
  | directoryAddress
  | directorySize
  | headerSize
  | addressTable
  | ordinalTableMissing
  | namePointerTable
  | ordinalTable
  | namePointer
  | addressIndex
  deriving DecidableEq, Repr

def ExportError.message : ExportError → String
  | directoryAddress => "Invalid data dir virtual address"
  | directorySize => "Invalid data dir size"
  | headerSize => "Invalid PE export dir size"
  | addressTable => "Invalid PE export address table"
  | ordinalTableMissing => "Missing PE export ordinal table"
  | namePointerTable => "Invalid PE export name pointer table"
  | ordinalTable => "Invalid PE export ordinal table"
  | namePointer => "Invalid PE export name pointer"
  | addressIndex => "Invalid PE export address index"

inductive LoadError where
  | missing (path : String) (fault : PathFault)
  | isDirectory (path : String)
  | fileTooLarge (path : String) (size limit : Nat)
  | fileEmpty (path : String)
  | unparsable (cause : ParseError)
  /-- A file of another format where an image is expected. -/
  | foreign (format : ForeignFormat)
  | imageTooLarge (size limit : Nat)
  | headersUnmapped (cause : MemoryError)
  deriving DecidableEq, Repr

def LoadError.message : LoadError → String
  | missing p e => "Load error: " ++ p ++ ": " ++ e.message
  | isDirectory p => "Load error: " ++ p ++ ": No such device (os error 19)"
  | fileTooLarge p n l =>
    "Load error: " ++ p ++ ": file is too large (" ++ toString n ++ " bytes, limit " ++ toString l ++ ")"
  | fileEmpty p => "Load error: " ++ p ++ ": file is empty"
  | unparsable e => "Load error: failed to parse image: " ++ e.message
  | foreign f => "Load error: unsupported format " ++ f.name ++ ", expected PE"
  | imageTooLarge n l =>
    "Load error: image is too large (" ++ toString n ++ " bytes, limit " ++ toString l ++ ")"
  | headersUnmapped e => "Load error: failed to map headers: " ++ e.message

end FlowGuard
