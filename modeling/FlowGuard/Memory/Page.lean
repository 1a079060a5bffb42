import FlowGuard.Memory.Error

/-!
Pages: the unit in which memory is mapped and protected. A page always holds exactly `pageSize` bytes.
-/

namespace FlowGuard

abbrev pageSize : Nat := 4096

structure Rights where
  read : Bool := false
  write : Bool := false
  execute : Bool := false
  deriving DecidableEq, Repr

namespace Rights

def readOnly : Rights where
  read := true

def code : Rights where
  read := true
  execute := true

def isEmpty (r : Rights) : Bool :=
  !(r.read || r.write || r.execute)

/-- One letter per right, a dash for a missing one, and a last dash: `ER--`, `-RW-`. -/
def text (r : Rights) : String :=
  String.ofList
    [if r.execute then 'E' else '-', if r.read then 'R' else '-', if r.write then 'W' else '-', '-']

end Rights

structure Page where
  bytes : Vector UInt8 pageSize
  rights : Rights
  deriving DecidableEq

namespace Page

def zeros : Vector UInt8 pageSize :=
  Vector.replicate pageSize 0

/-- The `count` bytes from `offset` on, cut at the end of the page. -/
def slice (p : Page) (offset count : Nat) : List UInt8 :=
  (p.bytes.extract offset (offset + count)).toList

/-- Overwrites the bytes from `offset` on; what would lie behind the page is dropped. -/
def store (p : Page) (offset : Nat) : List UInt8 → Page
  | [] => p
  | b :: rest => store { p with bytes := p.bytes.setIfInBounds offset b } (offset + 1) rest

end Page

end FlowGuard
