/-!
JSON text as a tree. String and number literals are kept as they are written: what a literal stands for
is asked only where it matters, so a value that is skipped need not stand for anything.
-/

namespace FlowGuard

inductive Json where
  | null
  | bool (b : Bool)
  /-- The characters of the number. -/
  | number (literal : List Char)
  /-- The characters between the quotes, escapes included. -/
  | string (literal : List Char)
  | array (items : List Json)
  | object (members : List (List Char × Json))

namespace Json

def hexDigit? (c : Char) : Option Nat :=
  if '0' ≤ c ∧ c ≤ '9' then some (c.toNat - '0'.toNat)
  else if 'a' ≤ c ∧ c ≤ 'f' then some (c.toNat - 'a'.toNat + 10)
  else if 'A' ≤ c ∧ c ≤ 'F' then some (c.toNat - 'A'.toNat + 10)
  else none

def hexFour? (a b c d : Char) : Option Nat := do
  return (((← hexDigit? a) * 16 + (← hexDigit? b)) * 16 + (← hexDigit? c)) * 16 + (← hexDigit? d)

/-- What a character behind a backslash stands for. -/
def simpleEscape? : Char → Option Char
  | '"' => some '"'
  | '\\' => some '\\'
  | '/' => some '/'
  | 'b' => some '\x08'
  | 'f' => some '\x0c'
  | 'n' => some '\n'
  | 'r' => some '\x0d'
  | 't' => some '\t'
  | _ => none

/-- The text that a string literal stands for. Surrogates have to come in pairs. -/
def unescape? : List Char → Option (List Char)
  | [] => some []
  | '\\' :: 'u' :: a :: b :: c :: d :: rest => do
    let high ← hexFour? a b c d
    if high < 0xD800 ∨ 0xDFFF < high then
      return Char.ofNat high :: (← unescape? rest)
    else if 0xDC00 ≤ high then none
    else
      match rest with
      | '\\' :: 'u' :: e :: f :: g :: h :: rest => do
        let low ← hexFour? e f g h
        if low < 0xDC00 ∨ 0xDFFF < low then none
        else return Char.ofNat (0x10000 + (high - 0xD800) * 0x400 + (low - 0xDC00)) :: (← unescape? rest)
      | _ => none
  | '\\' :: c :: rest => do
    let c ← simpleEscape? c
    return c :: (← unescape? rest)
  | c :: rest => do
    if c = '\\' then none
    return c :: (← unescape? rest)

def lowerHexDigit (n : Nat) : Char :=
  if n < 10 then Char.ofNat ('0'.toNat + n) else Char.ofNat ('a'.toNat + (n - 10))

def escapeChar (c : Char) : List Char :=
  if c = '"' then ['\\', '"']
  else if c = '\\' then ['\\', '\\']
  else if c = '\x08' then ['\\', 'b']
  else if c = '\x0c' then ['\\', 'f']
  else if c = '\n' then ['\\', 'n']
  else if c = '\x0d' then ['\\', 'r']
  else if c = '\t' then ['\\', 't']
  else if c.toNat < 0x20 then
    ['\\', 'u', '0', '0', lowerHexDigit (c.toNat / 16), lowerHexDigit (c.toNat % 16)]
  else [c]

def escape (text : List Char) : List Char :=
  text.flatMap escapeChar

def decimal (digits : List Char) : Nat :=
  digits.foldl (fun n c => 10 * n + (c.toNat - '0'.toNat)) 0

/-- The natural number that a literal stands for: digits without leading zeros, and nothing else. -/
def natural? (literal : List Char) : Option Nat :=
  match literal with
  | [] => none
  | c :: rest =>
    if !literal.all Char.isDigit then none
    else if c = '0' ∧ rest ≠ [] then none
    else some (decimal literal)

def ofNat (n : Nat) : Json :=
  number (Nat.toDigits 10 n)

def ofString (s : String) : Json :=
  string (escape s.toList)

end Json

end FlowGuard
