import FlowGuard.Address
import Std.Data.ExtTreeMap
import Std.Data.ExtTreeSet

/-!
What has been written into the disassembly: cross-references, comments and data marks. A repeated
reference is kept once, a later comment or mark at an address replaces the earlier one; the two
counters count every request.
-/

namespace FlowGuard

open Std (ExtTreeMap ExtTreeSet)

/-- Cross-references are ordered by their source, then by their target. -/
abbrev xrefOrder : Address × Address → Address × Address → Ordering :=
  compareLex (compareOn Prod.fst) (compareOn Prod.snd)

instance : Std.TransCmp xrefOrder :=
  inferInstanceAs (Std.TransCmp (compareLex (compareOn Prod.fst) (compareOn Prod.snd)))

structure Annotations where
  /-- Pairs of source and target. -/
  xrefs : ExtTreeSet (Address × Address) xrefOrder := ∅
  comments : ExtTreeMap Address String := ∅
  /-- The number of bytes shown as one value, by address. -/
  marks : ExtTreeMap Address Nat := ∅
  xrefCalls : Nat := 0
  commentCalls : Nat := 0

namespace Annotations

def addXref (s : Annotations) (source target : Address) : Annotations :=
  { s with xrefs := s.xrefs.insert (source, target), xrefCalls := s.xrefCalls + 1 }

def setComment (s : Annotations) (a : Address) (text : String) : Annotations :=
  { s with comments := s.comments.insert a text, commentCalls := s.commentCalls + 1 }

def setMark (s : Annotations) (a : Address) (size : Nat) : Annotations :=
  { s with marks := s.marks.insert a size }

end Annotations

inductive Refusal where
  | rejected (address : Address)
  | outsideModules (address : Address)
  deriving DecidableEq, Repr

def Refusal.message : Refusal → String
  | rejected a => "cannot annotate " ++ hex a ++ ": marking rejected"
  | outsideModules a => "cannot annotate " ++ hex a ++ ": address is outside every module"

end FlowGuard
