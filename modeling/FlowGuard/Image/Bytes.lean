import FlowGuard.LittleEndian

/-!
Reading and overwriting parts of a byte buffer.
-/

namespace FlowGuard.Bytes

/-- The `count` bytes at an offset, if the buffer holds them all. -/
def slice? (buffer : Array UInt8) (offset count : Nat) : Option (List UInt8) :=
  if offset + count ≤ buffer.size then some (buffer.extract offset (offset + count)).toList else none

/-- The same, except that nothing can be read anywhere. -/
def read? (buffer : Array UInt8) (offset count : Nat) : Option (List UInt8) :=
  if count = 0 then some [] else slice? buffer offset count

/-- The little-endian number in `count` bytes of a record. -/
def field (record : List UInt8) (offset count : Nat) : Nat :=
  LittleEndian.decode ((record.drop offset).take count)

/-- Whether a buffer holds `count` bytes at an offset; nothing is held anywhere. -/
def holds (buffer : Array UInt8) (offset count : Nat) : Bool :=
  count = 0 || offset + count ≤ buffer.size

inductive Order where
  | little
  | big
  deriving DecidableEq, Repr

def Order.field (order : Order) (record : List UInt8) (offset count : Nat) : Nat :=
  let bytes := (record.drop offset).take count
  match order with
  | .little => LittleEndian.decode bytes
  | .big => LittleEndian.decode bytes.reverse

def parts (size : Nat) : Nat → List UInt8 → List (List UInt8)
  | 0, _ => []
  | count + 1, bytes => bytes.take size :: parts size count (bytes.drop size)

def untilZero (bytes : List UInt8) : List UInt8 :=
  bytes.takeWhile (· != 0)

/-- The bytes in front of a zero, which has to be there. -/
def zeroEnded? (bytes : List UInt8) : Option (List UInt8) :=
  if bytes.contains 0 then some (untilZero bytes) else none

def storeAt (buffer : Array UInt8) (offset : Nat) : List UInt8 → Array UInt8
  | [] => buffer
  | b :: rest => storeAt (buffer.setIfInBounds offset b) (offset + 1) rest

/-- Overwrites a part of the buffer; a part that does not fit is left as it is. -/
def put (buffer : Array UInt8) (offset : Nat) (bytes : List UInt8) : Array UInt8 :=
  if offset + bytes.length ≤ buffer.size then storeAt buffer offset bytes else buffer

end FlowGuard.Bytes
