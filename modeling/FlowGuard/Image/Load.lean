import FlowGuard.Host.Basic
import FlowGuard.Image.Symbols
import FlowGuard.Run.Event

/-!
Loading an image file: the first page of the file is mapped at the image base, every section at its
address with the rights that its characteristics give, and the names of the export table and the symbol
table become symbols. The image base is selected.
-/

namespace FlowGuard

structure LoadLimits where
  fileSize : Nat := 256 * 1024 * 1024
  imageSize : Nat := 512 * 1024 * 1024
  deriving DecidableEq, Repr

structure LoadedImage where
  host : Host
  place : LoadedModule
  width : Width
  symbolCount : Nat

namespace Loading

/-- The least multiple of the page size that is not smaller. -/
def roundUp (n : Nat) : Nat :=
  (n + (pageSize - 1)) / pageSize * pageSize

/-- The width of the processor; for one that is not expected, that of the header. -/
def widthOf (f : ImageFile) : Traced Width :=
  match f.machine.width? with
  | some w => pure w
  | none => do
    Traced.note (.unexpectedMachine f.machine)
    return f.width

def sectionEnd (s : SectionHeader) : Nat :=
  s.virtualAddress.toNat + max s.virtualSize.toNat s.fileSize

def extent (f : ImageFile) : Nat :=
  roundUp ((f.sections.map sectionEnd).foldl max (roundUp (min f.file.size pageSize)))

/-- Maps the first page of the file. -/
def mapHeaders (f : ImageFile) (m : Memory) : Except LoadError Memory :=
  let m := m.map f.base (UInt64.ofNat pageSize) Rights.readOnly
  match m.write f.base (f.file.extract 0 pageSize).toList with
  | (m, .ok ()) => .ok m
  | (_, .error e) => .error (.headersUnmapped e)

/-- The rights of a section's pages: a section without any can be read. -/
def sectionRights (s : SectionHeader) : Rights :=
  if s.rights.isEmpty then Rights.readOnly else s.rights

/-- Maps one section. Bytes that the file does not hold are zeros. -/
def mapSection (f : ImageFile) (m : Memory) (s : SectionHeader) : Traced Memory :=
  let address := f.base + s.virtualAddress.toUInt64
  let bytes := (s.data? f.file).getD []
  let size := max s.virtualSize.toNat bytes.length
  let name := (f.sectionName? s).getD "<invalid>"
  if size = 0 then pure m
  else
    let m := m.map address (UInt64.ofNat (roundUp size)) (sectionRights s)
    match m.write address bytes with
    | (m, .ok ()) => do
      Traced.note (.sectionMapped name address size (sectionRights s))
      return m
    | (m, .error e) => do
      Traced.note (.sectionLost name e)
      return m

def mapSections (f : ImageFile) (m : Memory) : List SectionHeader → Traced Memory
  | [] => pure m
  | s :: rest => do
    let m ← mapSection f m s
    mapSections f m rest

/-- The names of the export table; an unusable table has none. -/
def exportNames (f : ImageFile) : Traced (List (Address × String)) :=
  match f.exports with
  | .ok found => pure (found.map fun e => (e.address, Utf8.decodeLossy e.name))
  | .error e => do
    Traced.note (.exportsUnusable e)
    return []

/-- The names of the symbol table that are text. -/
def symbolNames (f : ImageFile) : List (Address × String) :=
  f.symbols.filterMap fun s => (Utf8.decode? s.name).map fun name => (s.address, name)

/-- The names that become symbols: not empty, and inside the module. -/
def kept (m : LoadedModule) (names : List (Address × String)) : List (Address × String) :=
  names.filter fun (a, name) => name != "" && m.contains a

def loadImage (f : ImageFile) (limits : LoadLimits) : ExceptT LoadError Traced LoadedImage := do
  let width ← ExceptT.lift (widthOf f)
  let size := extent f
  if limits.imageSize < size then throw (.imageTooLarge size limits.imageSize)
  let place : LoadedModule := { base := f.base, size := UInt64.ofNat size }
  let memory ← ExceptT.mk (pure (mapHeaders f {}))
  let memory ← ExceptT.lift (mapSections f memory f.sections)
  let exported ← ExceptT.lift (exportNames f)
  let names := kept place (exported ++ symbolNames f)
  let host : Host := { memory, modules := [place], selection := some f.base }
  let host := names.foldl (fun h (a, name) => h.addSymbol a name) host
  ExceptT.lift (Traced.note (.imageLoaded f.base place.size width names.length))
  return { host, place, width, symbolCount := names.length }

def loadBytes (file : Array UInt8) (limits : LoadLimits) : ExceptT LoadError Traced LoadedImage :=
  match ImageFile.parse file with
  | .error e => throw (.unparsable e)
  | .ok (.foreign format) => throw (.foreign format)
  | .ok (.image f) => loadImage f limits

def loadFile (path : String) (stored : StoredFile) (limits : LoadLimits) :
    ExceptT LoadError Traced LoadedImage :=
  match stored with
  | .missing fault => throw (.missing path fault)
  | .directory => throw (.isDirectory path)
  | .bytes file => do
    ExceptT.lift (Traced.note (.imageOpened path file.size))
    if limits.fileSize < file.size then throw (.fileTooLarge path file.size limits.fileSize)
    if file.size = 0 then throw (.fileEmpty path)
    loadBytes file limits

end Loading

end FlowGuard
