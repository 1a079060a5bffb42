/-!
How the pieces of a crate path are spelled: leads, marks, and numbers in bases ten and sixteen.
-/

namespace FlowGuard.CratePath

def dropLead? : List Char → List Char → Option (List Char)
  | [], s => some s
  | _ :: _, [] => none
  | a :: lead, b :: s => if a = b then dropLead? lead s else none

/-- The rest behind the first of several leads that fits. -/
def dropAnyLead? (leads : List String) (s : List Char) : Option (List Char) :=
  leads.findSome? fun lead => dropLead? lead.toList s

def decimal (digits : List Char) : Nat :=
  digits.foldl (fun n c => 10 * n + (c.toNat - '0'.toNat)) 0

def lowerHexDigit? (c : Char) : Option Nat :=
  if c.isDigit then some (c.toNat - '0'.toNat)
  else if 'a' ≤ c ∧ c ≤ 'f' then some (c.toNat - 'a'.toNat + 10)
  else none

def isHexDigit (c : Char) : Bool :=
  (lowerHexDigit? c.toLower).isSome

/-- Splits at the first occurrence of `mark`: what stands in front and what stands behind. -/
def splitAtMark? (mark : List Char) : List Char → Option (List Char × List Char)
  | [] => if mark = [] then some ([], []) else none
  | c :: s =>
    match dropLead? mark (c :: s) with
    | some rest => some ([], rest)
    | none => (splitAtMark? mark s).map fun (front, rest) => (c :: front, rest)

end FlowGuard.CratePath
