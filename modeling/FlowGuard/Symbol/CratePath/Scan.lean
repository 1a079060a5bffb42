import FlowGuard.Symbol.CratePath.Punycode
import FlowGuard.Symbol.CratePath.Spelling

/-!
Reading the newer scheme of crate paths piece by piece. A scan reads one piece at a place of the symbol,
or gives the fault for which the symbol cannot be read on. A place also counts how deep the piece is
nested, since a piece may refer back to an earlier one.
-/

namespace FlowGuard.CratePath

inductive Fault where
  | invalid
  | tooDeep
  deriving DecidableEq, Repr

def Fault.message : Fault → String
  | invalid => "\x7binvalid syntax\x7d"
  | tooDeep => "\x7brecursion limit reached\x7d"

/-- Where a symbol is read, and how deep in its tree. -/
structure Place where
  next : Nat
  depth : Nat
  deriving DecidableEq, Repr

/-- A name. The characters of its code are inserted among the plain ones. -/
structure Ident where
  plain : List Char
  code : List Char
  deriving DecidableEq, Repr

namespace Ident

def isEmpty (name : Ident) : Bool :=
  name.plain.isEmpty && name.code.isEmpty

/-- The pieces of text that show a name. A code that cannot be decoded is shown as it is. -/
def pieces (name : Ident) : List String :=
  if name.code = [] then [String.ofList name.plain]
  else
    match Punycode.decode? name.plain name.code with
    | some text => text.map fun c => String.ofList [c]
    | none =>
      ["punycode\x7b"] ++ (if name.plain = [] then [] else [String.ofList name.plain, "-"])
        ++ [String.ofList name.code, "\x7d"]

end Ident

abbrev Scan (α : Type) := Array Char → Place → Except Fault (α × Place)

namespace Scan

def maxDepth : Nat := 500

def descend : Scan Unit := fun _ place =>
  if place.depth < maxDepth then .ok ((), { place with depth := place.depth + 1 }) else .error .tooDeep

def letter : Scan Char := fun symbol place =>
  match symbol[place.next]? with
  | some c => .ok (c, { place with next := place.next + 1 })
  | none => .error .invalid

/-- The characters of a symbol from a position on for which a test holds; no more than the fuel. -/
def runFrom (test : Char → Bool) (symbol : Array Char) : Nat → Nat → List Char
  | 0, _ => []
  | fuel + 1, position =>
    match symbol[position]? with
    | some c => if test c then c :: runFrom test symbol fuel (position + 1) else []
    | none => []

def run (test : Char → Bool) : Scan (List Char) := fun symbol place =>
  let found := runFrom test symbol symbol.size place.next
  .ok (found, { place with next := place.next + found.length })

/-- Whether a character comes next; if so, it is passed. -/
def eat (c : Char) : Scan Bool := fun symbol place =>
  if symbol[place.next]? = some c then .ok (true, { place with next := place.next + 1 })
  else .ok (false, place)

def andThen {α β : Type} (first : Scan α) (second : α → Scan β) : Scan β := fun symbol place =>
  match first symbol place with
  | .ok (a, place) => second a symbol place
  | .error fault => .error fault

def fail {α : Type} (fault : Fault) : Scan α := fun _ _ => .error fault

def give {α : Type} (a : α) : Scan α := fun _ place => .ok (a, place)

def word (n : Nat) : Scan Nat :=
  if n < UInt64.size then give n else fail .invalid

/-- The value of a digit in base 62: digits, lower case, upper case. -/
def digit62 (c : Char) : Nat :=
  if c.isDigit then c.toNat - '0'.toNat
  else if c.isLower then c.toNat - 'a'.toNat + 10
  else c.toNat - 'A'.toNat + 36

/-- A number in base 62 that ends with an underscore. The underscore alone is zero, and digits stand
for one more than they spell. -/
def integer62 : Scan Nat :=
  andThen (run Char.isAlphanum) fun digits =>
  andThen letter fun stop =>
    if stop != '_' then fail .invalid
    else if digits = [] then give 0
    else word (digits.foldl (fun n c => 62 * n + digit62 c) 0 + 1)

/-- A number behind a mark, one more than it spells, or zero without the mark. -/
def marked62 (mark : Char) : Scan Nat :=
  andThen (eat mark) fun present =>
    if present then andThen integer62 fun n => word (n + 1) else give 0

/-- The number that tells equal names apart. -/
def disambiguator : Scan Nat := marked62 's'

/-- The kind of thing a name stands for, if it is one with a spelling of its own. -/
def space : Scan (Option Char) :=
  andThen letter fun c =>
    if c.isUpper then give (some c) else if c.isLower then give none else fail .invalid

/-- A decimal number. No digit follows a leading zero. -/
def length : Scan Nat :=
  andThen letter fun c =>
    if !c.isDigit then fail .invalid
    else if c = '0' then give 0
    else andThen (run Char.isDigit) fun digits => give (decimal (c :: digits))

def chars (count : Nat) : Scan (List Char) := fun symbol place =>
  if place.next + count ≤ symbol.size then
    .ok ((symbol.extract place.next (place.next + count)).toList, { place with next := place.next + count })
  else .error .invalid

/-- The name made of characters whose code stands behind the last underscore. -/
def coded (text : List Char) : Scan Ident :=
  let code := (text.reverse.takeWhile (· != '_')).reverse
  if code = [] then fail .invalid else give ⟨text.take (text.length - code.length - 1), code⟩

/-- A name: a length, an optional underscore, and the characters; `u` in front marks a coded name. -/
def ident : Scan Ident :=
  andThen (eat 'u') fun isCoded =>
  andThen length fun count =>
  andThen (eat '_') fun _ =>
  andThen (chars count) fun text =>
    if isCoded then coded text else give ⟨text, []⟩

def nibbles : Scan (List Char) :=
  andThen (run fun c => (lowerHexDigit? c).isSome) fun digits =>
  andThen letter fun stop => if stop = '_' then give digits else fail .invalid

/-- The place of an earlier piece, one level deeper than the reference to it, whose first letter has
just been read. -/
def target : Scan Place := fun symbol place =>
  match integer62 symbol place with
  | .error fault => .error fault
  | .ok (n, after) =>
    if n < place.next - 1 then
      match descend symbol ⟨n, after.depth⟩ with
      | .ok ((), place) => .ok (place, after)
      | .error fault => .error fault
    else .error .invalid

end Scan

/-- The number that hexadecimal digits spell, unless it needs more than 64 bits. -/
def word? (nibbles : List Char) : Option Nat :=
  let digits := nibbles.dropWhile (· = '0')
  if digits.length ≤ 16 then
    some (digits.foldl (fun n c => 16 * n + (lowerHexDigit? c).getD 0) 0)
  else none

def bytes? : List Char → Option (List UInt8)
  | [] => some []
  | [_] => none
  | high :: low :: rest => do
    let byte := 16 * (← lowerHexDigit? high) + (← lowerHexDigit? low)
    return byte.toUInt8 :: (← bytes? rest)

end FlowGuard.CratePath
