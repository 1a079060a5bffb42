import FlowGuard.Image.Bytes
import FlowGuard.Image.Error
import FlowGuard.Width

/-!
Files in the format of linkable sections. Such a file is no image, but it is named as what it is only if
its tables are in order: the program headers, the section headers with their names, the symbol tables and
the sections that relocations apply to.
-/

namespace FlowGuard.Elf

/-- Where the fields of the headers stand; addresses and sizes have the width of the file. -/
structure Layout where
  order : Bytes.Order
  width : Width
  deriving DecidableEq, Repr

namespace Layout

/-- The greater number of bytes in files of 64 bits. -/
def pick (l : Layout) (narrow wide : Nat) : Nat :=
  match l.width with
  | .bits32 => narrow
  | .bits64 => wide

def headerSize (l : Layout) : Nat := l.pick 52 64

def segmentSize (l : Layout) : Nat := l.pick 32 56

def sectionSize (l : Layout) : Nat := l.pick 40 64

def field (l : Layout) (record : List UInt8) (narrow wide count : Nat) : Nat :=
  l.order.field record (l.pick narrow wide) count

def word (l : Layout) (record : List UInt8) (narrow wide : Nat) : Nat :=
  l.order.field record (l.pick narrow wide) (l.pick 4 8)

end Layout

structure Section where
  kind : Nat
  offset : Nat
  size : Nat
  link : Nat
  info : Nat
  deriving DecidableEq, Repr

namespace Section

/-- The kinds of section that are looked at. -/
def symbolTable : Nat := 2

def stringTable : Nat := 3

def relocationsWithAddends : Nat := 4

def withoutData : Nat := 8

def relocations : Nat := 9

def dynamicSymbols : Nat := 11

def extendedIndices : Nat := 18

def compactRelocations : Nat := 0x40000014

def ofBytes (l : Layout) (record : List UInt8) : Section where
  kind := l.order.field record 4 4
  offset := l.word record 16 24
  size := l.word record 20 32
  link := l.field record 24 40 4
  info := l.field record 28 44 4

def isHeld (s : Section) (file : Array UInt8) : Bool :=
  s.kind = withoutData || Bytes.holds file s.offset s.size

/-- Whether the end of a section is a position at all. -/
def hasEnd (s : Section) : Bool :=
  s.kind = withoutData || s.offset + s.size < UInt64.size

def isRelocations (s : Section) : Bool :=
  [relocations, relocationsWithAddends, compactRelocations].contains s.kind

end Section

/-- A number of 16 bits that says that the value stands in the first section. -/
def overflow : Nat := 0xFFFF

/-- The first section, if there is a section table. It holds the numbers that have no room in the file
header. -/
def firstSection (file : Array UInt8) (l : Layout) (header : List UInt8) : Except ElfError (Option Section) := do
  let offset := l.word header 32 40
  if offset = 0 then return none
  demand (l.field header 46 58 2 = l.sectionSize) ElfError.sectionSize
  let record ← require (Bytes.slice? file offset l.sectionSize) ElfError.firstSection
  return some (.ofBytes l record)

def checkSegments (file : Array UInt8) (l : Layout) (header : List UInt8) : Except ElfError Unit := do
  let offset := l.word header 28 32
  if offset = 0 then return
  let stated := l.field header 44 56 2
  let count ← if stated < overflow then pure stated else do
    match ← firstSection file l header with
    | some first => pure first.info
    | none => throw .segmentCount
  if count = 0 then return
  demand (l.field header 42 54 2 = l.segmentSize) ElfError.segmentSize
  demand (Bytes.holds file offset (count * l.segmentSize)) ElfError.segmentTable

def sectionTable (file : Array UInt8) (l : Layout) (header : List UInt8) : Except ElfError (Array Section) := do
  let offset := l.word header 32 40
  if offset = 0 then return #[]
  let stated := l.field header 48 60 2
  let count ← if 0 < stated then pure stated else do
    pure (((← firstSection file l header).map Section.size).getD 0)
  if count = 0 then return #[]
  demand (l.field header 46 58 2 = l.sectionSize) ElfError.sectionSize
  let bytes ← require (Bytes.slice? file offset (count * l.sectionSize)) ElfError.sectionTable
  return ((Bytes.parts l.sectionSize count bytes).map (.ofBytes l)).toArray

def checkNames (file : Array UInt8) (l : Layout) (header : List UInt8) (sections : Array Section) :
    Except ElfError Unit := do
  let stated := l.field header 50 62 2
  let index ← if stated ≠ overflow then pure stated else do
    pure (((← firstSection file l header).map Section.link).getD 0)
  demand (index ≠ 0) ElfError.namesMissing
  let names ← require sections[index]? ElfError.namesIndex
  demand names.hasEnd ElfError.namesSize

/-- Checks the first symbol table of a kind; gives its index, or zero if there is none. -/
def checkSymbols (file : Array UInt8) (sections : Array Section) (kind : Nat) : Except ElfError Nat := do
  match sections.findIdx? (·.kind = kind) with
  | none => return 0
  | some index =>
    let table ← require sections[index]? ElfError.sectionIndex
    demand (table.isHeld file) ElfError.symbols
    if table.link ≠ 0 then
      let strings ← require sections[table.link]? ElfError.sectionIndex
      demand (strings.kind = Section.stringTable) ElfError.stringsKind
      demand strings.hasEnd ElfError.stringsSize
    let extensions := sections.filter fun s => s.kind = Section.extendedIndices && s.link = index
    demand (extensions.all (·.isHeld file)) ElfError.extendedIndices
    return index

/-- Checks that relocations for the symbols apply to sections of the file. -/
def checkRelocations (sections : Array Section) (symbols : Nat) : Except ElfError Unit :=
  let mine := sections.filter fun s => s.isRelocations && s.link = symbols
  demand (mine.all fun s => s.info < sections.size) ElfError.relocationTarget

/-- The layout that the sixth byte of the file names; the seventh is the version. -/
def layout? (w : Width) (header : List UInt8) : Option Layout :=
  match header.drop 5 with
  | 1 :: 1 :: _ => some ⟨.little, w⟩
  | 2 :: 1 :: _ => some ⟨.big, w⟩
  | _ => none

def check (file : Array UInt8) (w : Width) : Except ElfError Unit := do
  let size := Layout.headerSize ⟨.little, w⟩
  let header ← require (Bytes.slice? file 0 size) ElfError.header
  let l ← require (layout? w header) ElfError.unsupported
  checkSegments file l header
  let sections ← sectionTable file l header
  if 0 < sections.size then
    checkNames file l header sections
    let symbols ← checkSymbols file sections Section.symbolTable
    let _ ← checkSymbols file sections Section.dynamicSymbols
    checkRelocations sections symbols

end FlowGuard.Elf
