import FlowGuard.Image.Format

/-!
The export table: names, each with the number of an address. All reads stay inside the bytes that the
data directory gives to the table, and one bad name makes the whole table unusable.
-/

namespace FlowGuard

structure NamedAddress where
  name : List UInt8
  address : Address
  deriving DecidableEq, Repr

namespace ImageFile

/-- `count` numbers of `size` bytes at an offset; the offset has to lie inside, even for none. -/
def numbers? (data : Array UInt8) (offset size count : Nat) : Option (List Nat) :=
  (Bytes.slice? data offset (count * size)).map fun bytes =>
    (Bytes.parts size count bytes).map LittleEndian.decode

/-- The bytes of a data directory, from the first section that holds its address. -/
def directoryData (f : ImageFile) (d : DataDirectory) : Except ExportError (Array UInt8) :=
  match f.sections.findSome? fun s => s.dataFrom? f.file d.rva with
  | none => .error .directoryAddress
  | some bytes =>
    if d.size.toNat ≤ bytes.length then .ok (bytes.take d.size.toNat).toArray else .error .directorySize

def requireExport {α : Type} (x : Option α) (e : ExportError) : Except ExportError α :=
  match x with
  | some a => .ok a
  | none => .error e

/-- One named export; an address inside the table forwards to another module and gives none. -/
def namedExport (f : ImageFile) (rva : UInt32) (data : Array UInt8) (addresses : Array Nat)
    (pointer ordinal : Nat) : Except ExportError (Option NamedAddress) := do
  let offset := (UInt32.ofNat pointer - rva).toNat
  let rest ← requireExport (Bytes.slice? data offset (data.size - offset)) .namePointer
  let name ← requireExport (Bytes.zeroEnded? rest) .namePointer
  let address ← requireExport addresses[ordinal]? .addressIndex
  if (UInt32.ofNat address - rva).toNat < data.size then return none
  return some { name, address := f.base + UInt64.ofNat address }

def exportsIn (f : ImageFile) (rva : UInt32) (data : Array UInt8) :
    Except ExportError (List NamedAddress) := do
  let header ← requireExport (Bytes.slice? data 0 40) .headerSize
  let offsetOf (n : Nat) : Nat := (UInt32.ofNat n - rva).toNat
  let functions := Bytes.field header 28 4
  let addresses ← if functions = 0 then pure []
    else requireExport (numbers? data (offsetOf functions) 4 (Bytes.field header 20 4)) .addressTable
  let names := Bytes.field header 32 4
  let ordinals := Bytes.field header 36 4
  if names = 0 then return []
  if ordinals = 0 then throw .ordinalTableMissing
  let count := Bytes.field header 24 4
  let pointers ← requireExport (numbers? data (offsetOf names) 4 count) .namePointerTable
  let indices ← requireExport (numbers? data (offsetOf ordinals) 2 count) .ordinalTable
  let addresses := addresses.toArray
  let found ← (pointers.zip indices).mapM fun (pointer, index) =>
    namedExport f rva data addresses pointer index
  return found.filterMap id

/-- The named exports of an image; without an export directory there are none. -/
def exports (f : ImageFile) : Except ExportError (List NamedAddress) :=
  match f.directories.head? with
  | none => .ok []
  | some d =>
    if d.rva = 0 then .ok []
    else
      match f.directoryData d with
      | .error e => .error e
      | .ok data => f.exportsIn d.rva data

end ImageFile

end FlowGuard
