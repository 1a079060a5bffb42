import FlowGuard.Symbol.Decorated.Letters

/-!
Reading decorated symbols piece by piece. A reader takes a piece off the rest of the symbol or fails, and
remembers the names and types that digits can repeat.
-/

namespace FlowGuard.Decorated

/-- What is left to read, and the names and types that digits can repeat. -/
structure State where
  rest : List Char
  names : List Name
  types : List Spelling
  deriving DecidableEq, Repr

abbrev Reader := StateT State Option

/-- At most this many names or types can be repeated. -/
def memory : Nat := 10

def next : Reader Char := do
  let s ← get
  match s.rest with
  | c :: rest =>
    set { s with rest }
    return c
  | [] => failure

def peek : Reader (Option Char) := do
  return (← get).rest.head?

def accept (t : String) : Reader Bool := do
  let s ← get
  if t.toList.isPrefixOf s.rest then
    set { s with rest := s.rest.drop t.length }
    return true
  else return false

def expect (t : String) : Reader Unit := do
  if !(← accept t) then failure

def digit? : Reader (Option Nat) := do
  match ← peek with
  | some c =>
    if c.isDigit then
      let _ ← next
      return some (c.toNat - '0'.toNat)
    else return none
  | none => return none

/-- A name is remembered at its first appearance. -/
def rememberName (n : Name) : Reader Unit :=
  modify fun s =>
    if s.names.length < memory ∧ n ∉ s.names then { s with names := s.names ++ [n] } else s

def rememberType (t : Spelling) : Reader Unit :=
  modify fun s =>
    if s.types.length < memory ∧ t ∉ s.types then { s with types := s.types ++ [t] } else s

/-- The text up to the next `@`, which is read too. -/
def plainName : Reader String := do
  let s ← get
  match s.rest.dropWhile (· != '@') with
  | [] => failure
  | _ :: rest =>
    set { s with rest }
    return String.ofList (s.rest.takeWhile (· != '@'))

def nameNumber (n : Nat) : Reader Name := do
  match (← get).names[n]? with
  | some name => return name
  | none => failure

def typeNumber (n : Nat) : Reader Spelling := do
  match (← get).types[n]? with
  | some t => return t
  | none => failure

def letterOf {α : Type} (table : List (Char × α)) : Reader α := do
  match table.lookup (← next) with
  | some a => return a
  | none => failure

def letterOf? {α : Type} (table : List (Char × α)) : Reader (Option α) := do
  match (← peek).bind fun c => table.lookup c with
  | some a =>
    let _ ← next
    return some a
  | none => return none

def targetQualifiers : Reader Qualifiers := do
  return (← letterOf? targetLetters).getD .none

def callingConvention : Reader String := letterOf conventions

def resultQualifiers : Reader Qualifiers := do
  if ← accept "?" then letterOf placeLetters else return .none

/-- The qualifiers of the object of a member function. Its size, its alignment and the kind of its
reference are not kept. -/
def objectQualifiers : Reader Qualifiers := do
  let _ ← accept "E"
  let _ ← accept "I"
  let _ ← accept "F"
  if !(← accept "G") then
    let _ ← accept "H"
  return (← letterOf? objectLetters).getD .none

/-- A whole number as it is held in a word of 32 bits. -/
def inWord (n : Int) : Int :=
  n.bmod UInt32.size

/-- A number: a digit stands for the next larger number, letters for hexadecimal digits up to an `@`. -/
def encodedNumber : Reader Int := do
  let negative ← accept "?"
  let signed (n : Int) : Int := inWord (if negative then -n else n)
  match ← digit? with
  | some n => return signed (n + 1)
  | none =>
    let digits := (← plainName).toList
    if !digits.all (fun c => 'A' ≤ c && c ≤ 'P') then failure
    return signed (digits.foldl (fun (n : Int) c => 16 * n + (c.toNat - 'A'.toNat : Nat)) 0)

def isHexDigit (c : Char) : Bool :=
  c.isDigit || ('a' ≤ c && c ≤ 'f') || ('A' ≤ c && c ≤ 'F')

def unnamedScope : String := "`anonymous namespace'"

/-- A namespace without a name: perhaps a hash in hexadecimal, and an `@`. -/
def unnamedNamespace : Reader Name := do
  let rest := (← get).rest
  if ← accept "0x" then
    modify fun s => { s with rest := s.rest.dropWhile isHexDigit }
  expect "@"
  return ⟨unnamedScope, unnamedScope ++ String.ofList (rest.takeWhile (· != '@'))⟩

def hashLength : Nat := 32

/-- A symbol that was too long and is known by its hash only. -/
def hashedSymbol : Reader String := do
  let rest := (← get).rest
  let hash := rest.take hashLength
  if hash.length < hashLength ∨ !hash.all isHexDigit then failure
  modify fun s => { s with rest := rest.drop hashLength }
  expect "@"
  return "??@" ++ String.ofList hash ++ "@"

end FlowGuard.Decorated
