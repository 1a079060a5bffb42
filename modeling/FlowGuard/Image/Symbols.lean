import FlowGuard.Image.Exports
import FlowGuard.Text.Utf8

/-!
The symbol table behind the sections: records of 18 bytes, followed by a table of longer names whose
first four bytes give its length.
-/

namespace FlowGuard

namespace ImageFile

def symbolSize : Nat := 18

/-- Where the symbol records and the names end. -/
structure SymbolTable where
  start : Nat
  count : Nat
  /-- Where the table of names starts. -/
  names : Nat
  /-- The end of the table of names as its first four bytes give it. -/
  namesEnd : Nat
  deriving DecidableEq, Repr

/-- The symbol table, if the file has one that it can hold. -/
def symbolTable? (f : ImageFile) : Option SymbolTable := do
  let start := f.symbolOffset.toNat
  let count := f.symbolCount.toNat
  if start = 0 then none
  let _ ← Bytes.read? f.file start (count * symbolSize)
  let names := start + count * symbolSize
  let length ← Bytes.slice? f.file names 4
  return { start, count, names, namesEnd := names + LittleEndian.decode length }

/-- A name in the table of names. The rest of that table has to lie in the file. -/
def longName? (f : ImageFile) (t : SymbolTable) (offset : Nat) : Option (List UInt8) :=
  let start := t.names + offset
  if start ≤ t.namesEnd then
    Bytes.slice? f.file start (t.namesEnd - start) >>= Bytes.zeroEnded?
  else none

def symbolRecord? (f : ImageFile) (t : SymbolTable) (index : Nat) : Option (List UInt8) :=
  if index < t.count then Bytes.slice? f.file (t.start + index * symbolSize) symbolSize else none

/-- How many records behind this one belong to it. -/
def auxCount (record : List UInt8) : Nat :=
  Bytes.field record 17 1

def storageClass (record : List UInt8) : Nat :=
  Bytes.field record 16 1

/-- The name of a symbol: of a source file in the records that follow, else short or in the table. -/
def symbolName? (f : ImageFile) (t : SymbolTable) (index : Nat) (record : List UInt8) :
    Option (List UInt8) :=
  let aux := auxCount record
  if storageClass record = 0x67 ∧ 0 < aux then
    if index + 1 + aux ≤ t.count then
      (Bytes.slice? f.file (t.start + (index + 1) * symbolSize) (aux * symbolSize)).map Bytes.untilZero
    else none
  else if Bytes.field record 0 1 = 0 then f.longName? t (Bytes.field record 4 4)
  else some (Bytes.untilZero (record.take 8))

def addressedClasses : List Nat := [2, 3, 6, 0x69]

/-- The address of a symbol in a section; zero for symbols that have none. -/
def symbolAddress (f : ImageFile) (record : List UInt8) : Address :=
  let number := Bytes.field record 12 2
  if storageClass record ∈ addressedClasses ∧ 0 < number ∧ number < 0xFEFF then
    match f.sections[number - 1]? with
    | some s => f.base + s.virtualAddress.toUInt64 + UInt64.ofNat (Bytes.field record 8 4)
    | none => 0
  else 0

/-- Walks the records from a number on; the fuel is at least the number of records left. -/
def symbolsFrom (f : ImageFile) (t : SymbolTable) : Nat → Nat → List NamedAddress
  | 0, _ => []
  | fuel + 1, index =>
    match f.symbolRecord? t index with
    | none => []
    | some record =>
      let rest := symbolsFrom f t fuel (index + 1 + auxCount record)
      match f.symbolName? t index record with
      | some name => { name, address := f.symbolAddress record } :: rest
      | none => rest

def symbols (f : ImageFile) : List NamedAddress :=
  match f.symbolTable? with
  | none => []
  | some t => f.symbolsFrom t t.count 0

def digit64? (b : UInt8) : Option Nat :=
  if 0x41 ≤ b ∧ b ≤ 0x5A then some (b.toNat - 0x41)
  else if 0x61 ≤ b ∧ b ≤ 0x7A then some (b.toNat - 0x61 + 26)
  else if 0x30 ≤ b ∧ b ≤ 0x39 then some (b.toNat - 0x30 + 52)
  else if b = 0x2B then some 62
  else if b = 0x2F then some 63
  else none

def digit10? (b : UInt8) : Option Nat :=
  if 0x30 ≤ b ∧ b ≤ 0x39 then some (b.toNat - 0x30) else none

/-- The offset that a section name spells when it stands in the table of names: behind one slash in
decimal, behind two in base 64. The outer option tells whether the name is well-formed. -/
def nameOffset? (rawName : List UInt8) : Option (Option Nat) :=
  match rawName with
  | 0x2F :: 0x2F :: digits => do
    let n := (← digits.mapM digit64?).foldl (fun n d => 64 * n + d) 0
    if n < UInt32.size then some (some n) else none
  | 0x2F :: digits => do
    return some ((← (Bytes.untilZero digits).mapM digit10?).foldl (fun n d => 10 * n + d) 0)
  | _ => some none

def sectionName? (f : ImageFile) (s : SectionHeader) : Option String := do
  let bytes ← match ← nameOffset? s.rawName with
    | none => some (Bytes.untilZero s.rawName)
    | some offset => f.symbolTable? >>= fun t => f.longName? t offset
  Utf8.decode? bytes

end ImageFile

end FlowGuard
