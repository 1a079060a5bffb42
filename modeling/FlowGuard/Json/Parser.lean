import FlowGuard.Json.Basic

/-!
Reading JSON text strictly: no comments, no trailing commas, no leading zeros, no control characters in
strings, and nothing but blanks behind the value.
-/

namespace FlowGuard.Json

def isBlank (c : Char) : Bool :=
  c = ' ' || c = '\t' || c = '\n' || c = '\x0d'

def skipBlanks (s : List Char) : List Char :=
  s.dropWhile isBlank

/-- A string literal behind its opening quote, and what follows the closing one. -/
def stringBody? : List Char → Option (List Char × List Char)
  | [] => none
  | '"' :: rest => some ([], rest)
  | '\\' :: 'u' :: a :: b :: c :: d :: rest => do
    let _ ← hexFour? a b c d
    let (body, rest) ← stringBody? rest
    return ('\\' :: 'u' :: a :: b :: c :: d :: body, rest)
  | '\\' :: c :: rest => do
    let _ ← simpleEscape? c
    let (body, rest) ← stringBody? rest
    return ('\\' :: c :: body, rest)
  | c :: rest => do
    if c = '\\' ∨ c.toNat < 0x20 then none
    let (body, rest) ← stringBody? rest
    return (c :: body, rest)

def digits? (s : List Char) : Option (List Char × List Char) :=
  if s.takeWhile Char.isDigit = [] then none
  else some (s.takeWhile Char.isDigit, s.dropWhile Char.isDigit)

/-- The digits in front of a point: a single zero, or digits that do not start with one. -/
def integer? (s : List Char) : Option (List Char × List Char) :=
  match s with
  | '0' :: rest => some (['0'], rest)
  | _ => digits? s

def fraction? (s : List Char) : Option (List Char × List Char) :=
  match s with
  | '.' :: rest => (digits? rest).map fun (ds, rest) => ('.' :: ds, rest)
  | _ => some ([], s)

def exponent? (s : List Char) : Option (List Char × List Char) :=
  match s with
  | c :: rest =>
    if c = 'e' ∨ c = 'E' then
      match rest with
      | '+' :: after => (digits? after).map fun (ds, rest) => (c :: '+' :: ds, rest)
      | '-' :: after => (digits? after).map fun (ds, rest) => (c :: '-' :: ds, rest)
      | _ => (digits? rest).map fun (ds, rest) => (c :: ds, rest)
    else some ([], s)
  | [] => some ([], [])

def unsigned? (s : List Char) : Option (List Char × List Char) := do
  let (a, s) ← integer? s
  let (b, s) ← fraction? s
  let (c, s) ← exponent? s
  return (a ++ b ++ c, s)

def number? (s : List Char) : Option (List Char × List Char) :=
  match s with
  | '-' :: rest => (unsigned? rest).map fun (ds, rest) => ('-' :: ds, rest)
  | _ => unsigned? s

mutual

/-- A value, and what follows it. The fuel bounds the nesting and the number of items. -/
def value? : Nat → List Char → Option (Json × List Char)
  | 0, _ => none
  | fuel + 1, s =>
    match skipBlanks s with
    | 'n' :: 'u' :: 'l' :: 'l' :: rest => some (null, rest)
    | 't' :: 'r' :: 'u' :: 'e' :: rest => some (bool true, rest)
    | 'f' :: 'a' :: 'l' :: 's' :: 'e' :: rest => some (bool false, rest)
    | '"' :: rest => (stringBody? rest).map fun (body, rest) => (string body, rest)
    | '[' :: rest =>
      match skipBlanks rest with
      | ']' :: rest => some (array [], rest)
      | s => (items? fuel s).map fun (items, rest) => (array items, rest)
    | '\x7b' :: rest =>
      match skipBlanks rest with
      | '\x7d' :: rest => some (object [], rest)
      | s => (members? fuel s).map fun (members, rest) => (object members, rest)
    | s => (number? s).map fun (literal, rest) => (number literal, rest)

def items? : Nat → List Char → Option (List Json × List Char)
  | 0, _ => none
  | fuel + 1, s => do
    let (item, s) ← value? fuel s
    match skipBlanks s with
    | ']' :: rest => some ([item], rest)
    | ',' :: rest => do
      let (items, rest) ← items? fuel rest
      return (item :: items, rest)
    | _ => none

def members? : Nat → List Char → Option (List (List Char × Json) × List Char)
  | 0, _ => none
  | fuel + 1, s =>
    match skipBlanks s with
    | '"' :: s => do
      let (key, s) ← stringBody? s
      match skipBlanks s with
      | ':' :: s => do
        let (v, s) ← value? fuel s
        match skipBlanks s with
        | '\x7d' :: rest => some ([(key, v)], rest)
        | ',' :: rest => do
          let (members, rest) ← members? fuel rest
          return ((key, v) :: members, rest)
        | _ => none
      | _ => none
    | _ => none

end

def parse? (text : String) : Option Json := do
  let s := text.toList
  let (v, rest) ← value? (2 * s.length + 2) s
  if skipBlanks rest = [] then some v else none

end FlowGuard.Json
