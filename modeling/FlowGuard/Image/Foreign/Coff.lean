import FlowGuard.Image.Bytes
import FlowGuard.Image.Error

/-!
Object files, which have sections and symbols like images but no addresses yet. The larger kind has room
for more sections.
-/

namespace FlowGuard.Coff

/-- The header of an object file, as far as it is checked. -/
structure Header where
  /-- Where the section table starts. -/
  sectionOffset : Nat
  sectionCount : Nat
  symbolOffset : Nat
  symbolCount : Nat
  symbolSize : Nat
  deriving DecidableEq, Repr

def sectionSize : Nat := 40

def header (file : Array UInt8) : Except ParseError Header := do
  let bytes ← require (Bytes.slice? file 0 20) ParseError.objectHeader
  return {
    sectionOffset := 20 + Bytes.field bytes 16 2
    sectionCount := Bytes.field bytes 2 2
    symbolOffset := Bytes.field bytes 8 4
    symbolCount := Bytes.field bytes 12 4
    symbolSize := 18 }

def bigHeader (file : Array UInt8) : Except ParseError Header := do
  let bytes ← require (Bytes.slice? file 0 56) ParseError.bigObjectHeader
  return {
    sectionOffset := 56
    sectionCount := Bytes.field bytes 44 4
    symbolOffset := Bytes.field bytes 48 4
    symbolCount := Bytes.field bytes 52 4
    symbolSize := 20 }

/-- Checks the section table, the symbols and the length of their strings. -/
def check (file : Array UInt8) (h : Header) : Except ParseError Unit := do
  demand (Bytes.holds file h.sectionOffset (h.sectionCount * sectionSize)) ParseError.sectionTable
  if h.symbolOffset ≠ 0 then
    let size := h.symbolCount * h.symbolSize
    demand (Bytes.holds file h.symbolOffset size) ParseError.symbolTable
    demand (Bytes.holds file (h.symbolOffset + size) 4) ParseError.stringTable

/-- The mark of large object files among the objects without a processor, and where it stands. -/
def bigMark : List UInt8 :=
  [0xC7, 0xA1, 0xBA, 0xD1, 0xEE, 0xBA, 0xA9, 0x4B, 0xAF, 0x20, 0xFA, 0xF6, 0x6A, 0xA4, 0xDC, 0xB8]

def isBig (file : Array UInt8) : Bool :=
  (Bytes.slice? file 0 32).any fun bytes => (bytes.drop 12).take bigMark.length = bigMark

end FlowGuard.Coff
