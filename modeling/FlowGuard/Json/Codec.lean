import FlowGuard.Json.Parser
import FlowGuard.Json.Printer

/-!
Values that are written as JSON and read back. Records are written as objects in the order of their
fields; they are read from an object with each field once, in any order and beside unknown members, or
from an array of all fields in order.
-/

namespace FlowGuard

class JsonCodec (α : Type) where
  toJson : α → Json
  ofJson? : Json → Option α

namespace JsonCodec

variable {α : Type} [JsonCodec α]

def write (a : α) : String :=
  (toJson a).write

def read? (α : Type) [JsonCodec α] (text : String) : Option α :=
  Json.parse? text >>= ofJson?

end JsonCodec

namespace Json

def naturalBelow? (bound : Nat) : Json → Option Nat
  | number literal => (natural? literal).filter (decide <| · < bound)
  | _ => none

def bool? : Json → Option Bool
  | bool b => some b
  | _ => none

def text? : Json → Option String
  | string literal => (unescape? literal).map String.ofList
  | _ => none

/-- A name among several, written as a string or as the only member of an object without a value. -/
def variant? : Json → Option String
  | string literal => (unescape? literal).map String.ofList
  | object [(key, null)] => (unescape? key).map String.ofList
  | _ => none

/-- The members of an object by the texts of their keys. -/
def texts? (members : List (List Char × Json)) : Option (List (String × Json)) :=
  members.mapM fun (key, v) => do return (String.ofList (← unescape? key), v)

/-- The value of a member that occurs exactly once. -/
def onlyMember? (members : List (String × Json)) (name : String) : Option Json :=
  match members.filter fun m => m.1 = name with
  | [(_, v)] => some v
  | _ => none

def fields? (names : List String) : Json → Option (List Json)
  | object members => do
    let members ← texts? members
    names.mapM (onlyMember? members)
  | array items => if items.length = names.length then some items else none
  | _ => none

def record (fields : List (String × Json)) : Json :=
  object (fields.map fun (name, v) => (escape name.toList, v))

def elements? : Json → Option (List Json)
  | array items => some items
  | _ => none

/-- An object whose keys are numbers below a bound, in the order of the text. The keys are read as they
are written: digits only, no escapes. -/
def numbered? (bound : Nat) : Json → Option (List (Nat × Json))
  | object members => members.mapM fun (key, v) => do
    let n ← (natural? key).filter (decide <| · < bound)
    return (n, v)
  | _ => none

def numbered (entries : List (Nat × Json)) : Json :=
  object (entries.map fun (n, v) => (Nat.toDigits 10 n, v))

end Json

end FlowGuard
