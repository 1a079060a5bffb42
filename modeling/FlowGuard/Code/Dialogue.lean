import FlowGuard.Memory.Basic
import FlowGuard.Run.Event

/-!
Computations that ask a host about its code. A dialogue leaves the answers open; with the answers of a host it runs to
its end. Bytes are read into a buffer, and there is no buffer of more than `bufferLimit` bytes, so in a program that
has to make room for them first a dialogue may also break off.
-/

namespace FlowGuard

/-- What a host answers: the text of the rights of a page, and the bytes of a range. -/
structure Answers where
  rights : Address → Except MemoryError String
  read : Address → Nat → Except MemoryError (List UInt8)

def Answers.ofMemory (m : Memory) : Answers where
  rights a :=
    match m.rightsAt a with
    | .ok rights => .ok rights.text
    | .error e => .error e
  read := m.read

inductive Dialogue (α : Type) where
  | done (a : α)
  | rights (page : Address) (next : Except MemoryError String → Dialogue α)
  | read (start : Address) (size : Nat) (next : Except MemoryError (List UInt8) → Dialogue α)
  | note (n : Note) (next : Dialogue α)

namespace Dialogue

variable {α β : Type}

protected def bind : Dialogue α → (α → Dialogue β) → Dialogue β
  | done a, f => f a
  | rights page next, f => rights page fun answer => (next answer).bind f
  | read start size next, f => read start size fun answer => (next answer).bind f
  | note n next, f => note n (next.bind f)

instance : Monad Dialogue where
  pure := done
  bind := Dialogue.bind

/-- The computation with a host that gives every answer. -/
def run (h : Answers) : Dialogue α → Traced α
  | done a => pure a
  | rights page next => (next (h.rights page)).run h
  | read start size next => (next (h.read start size)).run h
  | note n next => do
    Traced.note n
    next.run h

def bufferLimit : Nat := 0x7FFFFFFFFFFFFFFF

/-- The computation with buffers for the bytes that are read. A read that no buffer can hold breaks it off. -/
def runBuffered (h : Answers) : Dialogue α → Traced (Option α)
  | done a => pure (some a)
  | rights page next => (next (h.rights page)).runBuffered h
  | read start size next =>
    if size ≤ bufferLimit then (next (h.read start size)).runBuffered h else pure none
  | note n next => do
    Traced.note n
    next.runBuffered h

end Dialogue

end FlowGuard
