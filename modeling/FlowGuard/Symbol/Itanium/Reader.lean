import FlowGuard.Symbol.Itanium.Syntax

/-!
Readers of symbols. A reader takes characters off the front of the rest, or refuses. Where the grammar has
alternatives, the next one starts again at the same rest, but the table of components that back references
count is not taken back. Parts may be nested in one another up to a limit; a symbol that passes it is
refused as a whole, whatever alternatives are left.
-/

namespace FlowGuard.Itanium

inductive Refusal where
  | mismatch
  | tooDeep
  deriving DecidableEq, Repr

/-- What a reader leaves behind even when it refuses: the components that back references count, and whether
the type of a conversion is being read. -/
structure Memory where
  table : Array Component
  inConversion : Bool

abbrev Reader := StateT (List Char) (ExceptT Refusal (StateM Memory))

def mismatch {α : Type} : Reader α :=
  throw .mismatch

def tooDeep {α : Type} : Reader α :=
  throw .tooDeep

/-- Reads a part if it is there. A part that is nested too deep is refused for good. -/
def attempt {α : Type} (p : Reader α) : Reader (Option α) := fun rest memory =>
  match p rest memory with
  | (.ok (a, rest'), memory') => (.ok (some a, rest'), memory')
  | (.error .mismatch, memory') => (.ok (none, rest), memory')
  | (.error .tooDeep, memory') => (.error .tooDeep, memory')

/-- Whether a part is there. Nothing is read and nothing is remembered. -/
def probe {α : Type} (p : Reader α) : Reader Bool := fun rest memory =>
  match p rest memory with
  | (.ok _, _) => (.ok (true, rest), memory)
  | (.error .mismatch, _) => (.ok (false, rest), memory)
  | (.error .tooDeep, _) => (.error .tooDeep, memory)

/-- Asks for room for so many more levels. -/
def levels (wanted room : Nat) : Reader Unit :=
  if room < wanted then tooDeep else pure ()

def peek : Reader (Option Char) := do
  return (← get).head?

def accept (t : String) : Reader Bool := do
  let rest ← get
  if t.toList.isPrefixOf rest then
    set (rest.drop t.length)
    return true
  else return false

def expect (t : String) : Reader Unit := do
  if !(← accept t) then mismatch

/-- Reads the longest stretch of characters of one kind. -/
def stretch (p : Char → Bool) : Reader (List Char) := do
  let rest ← get
  set (rest.dropWhile p)
  return rest.takeWhile p

/-- Parts of one kind, as many as there are; each takes a character at least. -/
def manyWithin {α : Type} (p : Reader α) : Nat → Reader (List α)
  | 0 => pure []
  | fuel + 1 => do
    match ← attempt p with
    | some a => return a :: (← manyWithin p fuel)
    | none => return []

/-- Parts of one kind, as many as there are. Another one is looked for even at the end. -/
def many {α : Type} (p : Reader α) : Reader (List α) := do
  manyWithin p ((← get).length + 1)

def many1 {α : Type} (p : Reader α) : Reader (List α) := do
  let first ← p
  return first :: (← many p)

/-- Goes on from a value as long as a step yields another one. -/
def growing {α : Type} (step : α → Reader (Option α)) : Nat → α → Reader α
  | 0, a => pure a
  | fuel + 1, a => do
    match ← step a with
    | some b => growing step fuel b
    | none => return a

def remember (c : Component) : Reader Component := fun rest memory =>
  (.ok (c, rest), { memory with table := memory.table.push c })

/-- The component that a back reference counts to. -/
def recalled (index : Nat) : Reader Component := fun rest memory =>
  match memory.table[index]? with
  | some c => (.ok (c, rest), memory)
  | none => (.error .mismatch, memory)

def inConversion : Reader Bool := fun rest memory =>
  (.ok (memory.inConversion, rest), memory)

/-- Reads the type of a conversion. -/
def asConversion {α : Type} (flag : Bool) (p : Reader α) : Reader α := fun rest memory =>
  let (answer, memory') := p rest { memory with inConversion := flag }
  (answer, { memory' with inConversion := memory.inConversion })

def numberBound : Nat := 0x8000000000000000

/-- The value of a digit; capital letters go on behind the nine. -/
def digitValue (c : Char) : Nat :=
  if c.isDigit then c.toNat - '0'.toNat else c.toNat - 'A'.toNat + 10

/-- A number in some base, without leading zeros. -/
def numberIn (base : Nat) : Reader Nat := do
  let digits ← stretch fun c => (c.isDigit || c.isUpper) && digitValue c < base
  let value := digits.foldl (fun n c => base * n + digitValue c) 0
  if digits = [] ∨ (1 < digits.length ∧ digits.head? = some '0') ∨ numberBound ≤ value then mismatch
  return value

def number : Reader Nat :=
  numberIn 10

/-- A number with an `n` in front if it is negative, as it is written. -/
def signedNumber : Reader String := do
  let negative ← accept "n"
  let n ← number
  return if negative ∧ n ≠ 0 then "-" ++ toString n else toString n

/-- None for the first of a row, a number for those behind it, and an underscore. -/
def ordinal (base : Nat) : Reader Nat := do
  match ← attempt (numberIn base) with
  | some n =>
    expect "_"
    return n + 1
  | none =>
    expect "_"
    return 0

def isIdentifierChar (c : Char) : Bool :=
  c.isAlphanum || c = '_' || c = '$' || c = '.'

/-- A length and as many characters of an identifier. -/
def sourceName (room : Nat) : Reader Ident := do
  levels 1 room
  let n ← number
  let rest ← get
  if n = 0 ∨ rest.length < n then mismatch
  levels 2 room
  let name := rest.take n
  if !name.all isIdentifierChar then mismatch
  set (rest.drop n)
  return name

/-- Qualifiers in their fixed order. -/
def qualifiers (room : Nat) : Reader Qualifiers := do
  levels 1 room
  let isRestrict ← accept "r"
  let isVolatile ← accept "V"
  let isConst ← accept "K"
  return { isRestrict, isVolatile, isConst }

def refQualifier (room : Nat) : Reader (Option RefQualifier) := do
  levels 1 room
  if ← accept "R" then return some .lvalue
  else if ← accept "O" then return some .rvalue
  else return none

/-- The operators by their two letters, with the number of operands they take. -/
def operators : List (String × String × Nat) :=
  [("nw", "new", 3), ("na", "new[]", 3), ("dl", "delete", 1), ("da", "delete[]", 1), ("ps", "+", 1),
    ("ng", "-", 1), ("ad", "&", 1), ("de", "*", 1), ("co", "~", 1), ("pl", "+", 2), ("mi", "-", 2),
    ("ml", "*", 2), ("dv", "/", 2), ("rm", "%", 2), ("an", "&", 2), ("or", "|", 2), ("eo", "^", 2),
    ("aS", "=", 2), ("pL", "+=", 2), ("mI", "-=", 2), ("mL", "*=", 2), ("dV", "/=", 2),
    ("rM", "%=", 2), ("aN", "&=", 2), ("oR", "|=", 2), ("eO", "^=", 2), ("ls", "<<", 2),
    ("rs", ">>", 2), ("lS", "<<=", 2), ("rS", ">>=", 2), ("eq", "==", 2), ("ne", "!=", 2),
    ("lt", "<", 2), ("gt", ">", 2), ("le", "<=", 2), ("ge", ">=", 2), ("ss", "<=>", 2),
    ("nt", "!", 1), ("aa", "&&", 2), ("oo", "||", 2), ("pp", "++", 1), ("mm", "--", 1),
    ("cm", ",", 2), ("pm", "->*", 2), ("pt", "->", 2), ("cl", "()", 2), ("ix", "[]", 2),
    ("qu", "?:", 3)]

def simpleOperator (room : Nat) : Reader Operator := do
  levels 1 room
  let rest ← get
  match operators.lookup (String.ofList (rest.take 2)) with
  | some (text, arity) =>
    set (rest.drop 2)
    return .symbol text arity
  | none => mismatch

/-- The letters that a name without scope can start with, digits apart. -/
def nameLetters : List Char :=
  ['L', 'C', 'D', 'U', 'a', 'c', 'd', 'e', 'g', 'i', 'l', 'm', 'n', 'o', 'p', 'q', 'r', 's', 'v']

def startsName (c : Char) : Bool :=
  c.isDigit || nameLetters.contains c

def builtins : List (Char × String) :=
  [('v', "void"), ('w', "wchar_t"), ('b', "bool"), ('c', "char"), ('a', "signed char"),
    ('h', "unsigned char"), ('s', "short"), ('t', "unsigned short"), ('i', "int"),
    ('j', "unsigned int"), ('l', "long"), ('m', "unsigned long"), ('x', "long long"),
    ('y', "unsigned long long"), ('n', "__int128"), ('o', "unsigned __int128"), ('f', "float"),
    ('d', "double"), ('e', "long double"), ('g', "__float128"), ('z', "...")]

def builtinsD : List (Char × String) :=
  [('d', "decimal64"), ('e', "decimal128"), ('f', "decimal32"), ('h', "half"), ('i', "char32_t"),
    ('s', "char16_t"), ('u', "char8_t"), ('a', "auto"), ('c', "decltype(auto)"),
    ('n', "std::nullptr_t")]

def letteredType (room : Nat) : Reader Component := do
  levels 1 room
  if ← accept "DF16b" then return .builtin "std::bfloat16_t"
  match ← get with
  | 'D' :: c :: rest =>
    match builtinsD.lookup c with
    | some t =>
      set rest
      return .builtin t
    | none => mismatch
  | c :: rest =>
    match builtins.lookup c with
    | some t =>
      set rest
      return .builtin t
    | none => mismatch
  | [] => mismatch

def widthBound : Nat := 0x10000

def width : Reader Nat := do
  let n ← number
  if n < widthBound then return n else mismatch

/-- A floating-point type of some width, perhaps an extended one. -/
def floatType : Reader Component := do
  expect "DF"
  let n ← width
  if ← accept "x" then return .builtin ("_Float" ++ toString n ++ "x")
  expect "_"
  return .builtin ("_Float" ++ toString n)

/-- The letters of the well-known parts behind an `S`. -/
def wellKnowns : List (Char × WellKnown) :=
  [('t', .std), ('a', .allocator), ('b', .basicString), ('s', .string), ('i', .istream),
    ('o', .ostream), ('d', .iostream)]

/-- A well-known part or a back reference. -/
def substitution (room : Nat) : Reader Component := do
  levels 2 room
  expect "S"
  match (← peek).bind fun c => wellKnowns.lookup c with
  | some w =>
    set ((← get).drop 1)
    return .wellKnown w
  | none => recalled (← ordinal 36)

def templateParam (room : Nat) : Reader Nat := do
  levels 1 room
  expect "T"
  ordinal 10

/-- The number of a parameter of the function around, or none for its object. -/
def functionParam (room : Nat) : Reader (Option Nat) := do
  levels 1 room
  if ← accept "fL" then
    let _ ← number
    expect "p"
  else expect "fp"
  let _ ← qualifiers (room - 1)
  if ← accept "T" then return none
  return some (← ordinal 10)

/-- What tells local names of one spelling apart: a digit, or a number of two digits at least. -/
def discriminator (room : Nat) : Reader Unit := do
  levels 1 room
  expect "_"
  if ← accept "_" then
    if (← number) < 10 then mismatch
    expect "_"
  else
    match ← get with
    | c :: rest => if c.isDigit then set rest else mismatch
    | [] => mismatch

def tags (room : Nat) : Reader (List Ident) := do
  levels 1 room
  many do
    levels 2 room
    expect "B"
    sourceName (room - 2)

/-- How far a thunk moves its object. -/
def callOffset (room : Nat) : Reader String := do
  levels 1 room
  if ← accept "h" then
    let n ← signedNumber
    expect "_"
    return "\x7boffset(" ++ n ++ ")\x7d"
  else
    expect "v"
    let n ← signedNumber
    expect "_"
    let m ← signedNumber
    expect "_"
    return "\x7bvirtual offset(" ++ n ++ ", " ++ m ++ ")\x7d"

/-- The suffix of a copy made by the compiler: a dot, a word, and numbers. -/
def copySuffix (room : Nat) : Reader String := do
  levels 1 room
  expect "."
  let kind ← stretch fun c => c.isAlphanum || c = '_' || c = '$'
  if kind = [] then mismatch
  let numbers ← many do
    expect "."
    number
  return " [clone ." ++ String.ofList kind ++ String.join (numbers.map fun n => "." ++ toString n) ++ "]"

/-- What the two characters of an escape in the name of a resource stand for. -/
def resourceEscapes : List (Char × String) :=
  [('S', "/"), ('_', "."), ('$', "$")]

/-- Pieces of the name of a resource: plain characters, and an escape behind them. The fuel is at least
the number of characters. -/
def resourcePieces? : Nat → List Char → Option (List String)
  | _, [] => some []
  | 0, _ => none
  | fuel + 1, s => do
    let plain := s.takeWhile (· != '$')
    if plain = [] then none
    match s.dropWhile (· != '$') with
    | [] => some [String.ofList plain]
    | _ :: [] => none
    | _ :: c :: rest =>
      let escape ← resourceEscapes.lookup c
      return String.ofList plain :: escape :: (← resourcePieces? fuel rest)

/-- The name of a resource: its length, an underscore that counts, and its pieces. -/
def resource : Reader String := do
  let length ← number
  let rest ← get
  if length = 0 ∨ rest.length < length then mismatch
  match rest.take length with
  | '_' :: name =>
    if name = [] then mismatch
    match resourcePieces? name.length name with
    | some pieces =>
      set (rest.drop length)
      return String.join pieces
    | none => mismatch
  | _ => mismatch

end FlowGuard.Itanium
