import FlowGuard.LittleEndian
import FlowGuard.Memory.Page
import Std.Data.ExtTreeMap
import Std.Data.ExtTreeSet

/-!
The target's memory: a finite set of pages, looked up by page number. Reads and writes go page by
page, so a range is served up to the first page that refuses it. Pages can be told to refuse reads or
rights queries.
-/

namespace FlowGuard

open Std (ExtTreeMap ExtTreeSet)

/-- The mapped pages, and the page numbers at which reads or rights queries are made to fail. -/
structure Memory where
  pages : ExtTreeMap Nat Page := ∅
  failingReads : ExtTreeSet Nat := ∅
  failingRights : ExtTreeSet Nat := ∅

namespace Memory

def pageOf (a : Address) : Nat :=
  a.toNat / pageSize

/-- Gives one page its rights, keeping its bytes; a new page holds zeros. -/
def mapPage (m : Memory) (page : Nat) (rights : Rights) : Memory :=
  let bytes := match m.pages[page]? with
    | some old => old.bytes
    | none => Page.zeros
  { m with pages := m.pages.insert page { bytes, rights } }

def mapPages (m : Memory) (rights : Rights) (first : Nat) : Nat → Memory
  | 0 => m
  | count + 1 => mapPages (m.mapPage first rights) rights (first + 1) count

/-- Maps the pages that meet the `size` bytes from `a` on, up to the end of the address space. -/
def map (m : Memory) (a size : UInt64) (rights : Rights) : Memory :=
  if size = 0 then m
  else
    let first := pageOf a
    let last := pageOf (Address.addSat a (size - 1))
    m.mapPages rights first (last + 1 - first)

/-- Stores bytes from the position `current` on, page by page. What was stored in front of a failing
page stays. `start` and `length` describe the whole request and only word its overflow. -/
def storeFrom (m : Memory) (start : Address) (length current : Nat) (bytes : List UInt8) :
    Memory × Except MemoryError Unit :=
  if bytes = [] then (m, .ok ())
  else if spaceSize ≤ current then (m, .error (.overflow start length))
  else
    match m.pages[current / pageSize]? with
    | none => (m, .error (.unmapped (UInt64.ofNat current)))
    | some page =>
      let offset := current % pageSize
      let room := pageSize - offset
      let page := page.store offset (bytes.take room)
      storeFrom { m with pages := m.pages.insert (current / pageSize) page }
        start length (current + room) (bytes.drop room)
termination_by bytes.length
decreasing_by
  have : 0 < bytes.length := List.length_pos_iff.mpr (by assumption)
  have : current % pageSize < pageSize := Nat.mod_lt _ (by decide)
  simp only [List.length_drop]
  omega

/-- Stores bytes at an address, whatever the rights of its pages. -/
def write (m : Memory) (a : Address) (bytes : List UInt8) : Memory × Except MemoryError Unit :=
  m.storeFrom a bytes.length a.toNat bytes

/-- The page at a position, if its bytes may be read. -/
def readablePage (m : Memory) (current : Nat) : Except MemoryError Page :=
  if m.failingReads.contains (current / pageSize) then .error (.unreadable (UInt64.ofNat current))
  else
    match m.pages[current / pageSize]? with
    | none => .error (.unmapped (UInt64.ofNat current))
    | some page => if page.rights.isEmpty then .error (.unreadable (UInt64.ofNat current)) else .ok page

/-- Reads `count` bytes from the position `current` on, page by page. -/
def fetchFrom (m : Memory) (current count : Nat) : Except MemoryError (List UInt8) :=
  if count = 0 then .ok []
  else
    match m.readablePage current with
    | .error e => .error e
    | .ok page =>
      let offset := current % pageSize
      let part := min (pageSize - offset) count
      match fetchFrom m (current + part) (count - part) with
      | .error e => .error e
      | .ok rest => .ok (page.slice offset part ++ rest)
termination_by count
decreasing_by
  have : current % pageSize < pageSize := Nat.mod_lt _ (by decide)
  omega

/-- Reads `count` bytes at an address: all of them or none. -/
def read (m : Memory) (a : Address) (count : Nat) : Except MemoryError (List UInt8) :=
  if count = 0 then .ok []
  else if spaceSize < a.toNat + count then .error (.overflow a count)
  else m.fetchFrom a.toNat count

def readNat (m : Memory) (a : Address) (count : Nat) : Except MemoryError Nat :=
  (m.read a count).map LittleEndian.decode

def readUInt8 (m : Memory) (a : Address) : Except MemoryError UInt8 :=
  (m.readNat a 1).map UInt8.ofNat

def readUInt32 (m : Memory) (a : Address) : Except MemoryError UInt32 :=
  (m.readNat a 4).map UInt32.ofNat

def readInt32 (m : Memory) (a : Address) : Except MemoryError Int32 :=
  (m.readUInt32 a).map UInt32.toInt32

def readUInt64 (m : Memory) (a : Address) : Except MemoryError UInt64 :=
  (m.readNat a 8).map UInt64.ofNat

def rightsAt (m : Memory) (a : Address) : Except MemoryError Rights :=
  if m.failingRights.contains (pageOf a) then .error (.rightsQuery a)
  else
    match m.pages[pageOf a]? with
    | none => .error (.rightsQuery a)
    | some page => .ok page.rights

/-- Makes every read that touches the page of an address fail. -/
def failReads (m : Memory) (a : Address) : Memory :=
  { m with failingReads := m.failingReads.insert (pageOf a) }

/-- Makes every rights query in the page of an address fail. -/
def failRights (m : Memory) (a : Address) : Memory :=
  { m with failingRights := m.failingRights.insert (pageOf a) }

end Memory

end FlowGuard
