import FlowGuard.Symbol.CratePath.Sheet
import FlowGuard.Text.Utf8

/-!
The newer scheme of crate paths: behind `_R`, a path is a tree of crates, names, implementations, generic
arguments, types and constants, each introduced by a letter. A path may refer back to an earlier piece of
the symbol. It is followed by the path of the crate it was compiled for, if that is another one.
-/

namespace FlowGuard.CratePath.Tree

open Writer

/-- The types that are spelled by one letter in lower case. -/
def basicType? : Char → Option String
  | 'b' => some "bool"
  | 'c' => some "char"
  | 'e' => some "str"
  | 'u' => some "()"
  | 'a' => some "i8"
  | 's' => some "i16"
  | 'l' => some "i32"
  | 'x' => some "i64"
  | 'n' => some "i128"
  | 'i' => some "isize"
  | 'h' => some "u8"
  | 't' => some "u16"
  | 'm' => some "u32"
  | 'y' => some "u64"
  | 'o' => some "u128"
  | 'j' => some "usize"
  | 'f' => some "f32"
  | 'd' => some "f64"
  | 'z' => some "!"
  | 'p' => some "_"
  | 'v' => some "..."
  | _ => none

/-- The types of constants whose value is a number without a sign. -/
def isUnsigned (tag : Char) : Bool := "htmyoj".toList.contains tag

/-- The types of constants whose value is a number with a sign. -/
def isSigned (tag : Char) : Bool := "aslxni".toList.contains tag

/-- A name in a path. A closure or another item that has no name of its own is numbered. -/
def component (space : Option Char) (number : Nat) (ident : Ident) : Writer Unit :=
  match space with
  | none => if ident.isEmpty then return else do
    write "::"
    name ident
  | some kind => do
    write "::\x7b"
    write (if kind = 'C' then "closure" else if kind = 'S' then "shim" else String.singleton kind)
    if !ident.isEmpty then
      write ":"
      name ident
    write "#"
    write (toString number)
    write "\x7d"

/-- A number. One that needs more than 64 bits stays in base sixteen. -/
def number : Writer Unit :=
  reading Scan.nibbles fun digits =>
    match word? digits with
    | some value => write (toString value)
    | none => writeAll ["0x", String.ofList digits]

def truth : Writer Unit :=
  reading Scan.nibbles fun digits =>
    match word? digits with
    | some 0 => write "false"
    | some 1 => write "true"
    | _ => invalid

def character : Writer Unit :=
  reading Scan.nibbles fun digits =>
    match word? digits with
    | some code => if h : code.isValidChar then quoted '\'' [Char.ofNatAux code h] else invalid
    | none => invalid

/-- A text between quotes, given by the bytes of its encoding. -/
def literal : Writer Unit :=
  reading Scan.nibbles fun digits =>
    match (bytes? digits).bind Utf8.decode? with
    | some text => quoted '"' text.toList
    | none => invalid

/-- The convention of a function, with the hyphens that a symbol spells as underscores. -/
def convention (text : List Char) : Writer Unit := do
  write "extern \""
  match String.ofList text |>.splitOn "_" with
  | [] => return
  | first :: rest =>
    write first
    rest.forM fun part => do
      write "-"
      write part
  write "\" "

/-- The convention that a function type may name, and then what follows it. -/
def withConvention (next : Option (List Char) → Writer Unit) : Writer Unit := do
  if ← eat 'K' then
    if ← eat 'C' then next (some ['C'])
    else
      reading Scan.ident fun ident =>
        if ident.plain = [] ∨ ident.code ≠ [] then invalid else next (some ident.plain)
  else next none

/-- The types that the items of a trait are bound to, inside the brackets of its arguments. The fuel is
more than the characters of the symbol. -/
def projections (item : Writer Unit) : Nat → Bool → Writer Unit
  | 0, _ => return
  | fuel + 1, isOpen => do
    if ← eat 'p' then
      write (if isOpen then ", " else "<")
      reading Scan.ident fun ident => do
        name ident
        write " = "
        item
        projections item fuel true
    else if isOpen then write ">"

mutual

/-- A path. In a value, generic arguments are set off by colons. -/
def path : Nat → Bool → Writer Unit
  | 0, _ => fail .tooDeep
  | fuel + 1, inValue =>
    reading Scan.descend fun _ => reading Scan.letter fun tag => do
      match tag with
      | 'C' =>
        reading Scan.disambiguator fun _ => reading Scan.ident name
      | 'N' =>
        reading Scan.space fun space => do
          path fuel inValue
          if !(← isSound) then write "::"
          reading Scan.disambiguator fun number => reading Scan.ident (component space number)
      | 'M' =>
        reading Scan.disambiguator fun _ => do
          silently (path fuel false)
          implementation fuel false
      | 'X' =>
        reading Scan.disambiguator fun _ => do
          silently (path fuel false)
          implementation fuel true
      | 'Y' => implementation fuel true
      | 'I' =>
        path fuel inValue
        if inValue then write "::"
        bracketed "<" ">" "" (argument fuel)
      | 'B' => referring () (path fuel inValue)
      | _ => invalid
      climb

/-- A type and perhaps the trait that is implemented for it. -/
def implementation : Nat → Bool → Writer Unit
  | 0, _ => fail .tooDeep
  | fuel + 1, ofTrait => do
    write "<"
    type fuel
    if ofTrait then
      write " as "
      path fuel false
    write ">"

/-- A generic argument: a lifetime, a constant or a type. -/
def argument : Nat → Writer Unit
  | 0 => fail .tooDeep
  | fuel + 1 => do
    if ← eat 'L' then reading Scan.integer62 lifetime
    else if ← eat 'K' then constant fuel false
    else type fuel

def type : Nat → Writer Unit
  | 0 => fail .tooDeep
  | fuel + 1 =>
    reading Scan.letter fun tag =>
      match basicType? tag with
      | some text => write text
      | none =>
        reading Scan.descend fun _ => do
          match tag with
          | 'R' => reference fuel ""
          | 'Q' => reference fuel "mut "
          | 'P' =>
            write "*const "
            type fuel
          | 'O' =>
            write "*mut "
            type fuel
          | 'A' =>
            write "["
            type fuel
            write "; "
            constant fuel true
            write "]"
          | 'S' =>
            write "["
            type fuel
            write "]"
          | 'T' => bracketed "(" ")" "," (type fuel)
          | 'F' => binding (function fuel)
          | 'D' =>
            write "dyn "
            binding (do discard (items " + " (bound fuel)))
            if ← eat 'L' then
              reading Scan.integer62 fun index => do
                if index ≠ 0 then
                  write " + "
                  lifetime index
            else invalid
          | 'W' =>
            type fuel
            write " is "
            pattern fuel
          | 'B' => referring () (type fuel)
          | _ =>
            stepBack
            path fuel false
          climb

/-- A reference. Its lifetime is written unless it has no name. -/
def reference : Nat → String → Writer Unit
  | 0, _ => fail .tooDeep
  | fuel + 1, mutability => do
    write "&"
    let target : Writer Unit := do
      write mutability
      type fuel
    if ← eat 'L' then
      reading Scan.integer62 fun index => do
        if index ≠ 0 then
          lifetime index
          write " "
        target
    else target

/-- A function type. The result `()` is not written. -/
def function : Nat → Writer Unit
  | 0 => fail .tooDeep
  | fuel + 1 => do
    let isUnsafe ← eat 'U'
    withConvention fun named => do
      if isUnsafe then write "unsafe "
      if let some text := named then convention text
      bracketed "fn(" ")" "" (type fuel)
      if !(← eat 'u') then
        write " -> "
        type fuel

/-- The values that a type is narrowed to. -/
def pattern : Nat → Writer Unit
  | 0 => fail .tooDeep
  | fuel + 1 =>
    reading Scan.letter fun tag =>
      match tag with
      | 'R' => do
        constant fuel false
        write "..="
        constant fuel false
      | 'O' =>
        reading Scan.descend fun _ => do
          discard (items " | " (pattern fuel))
          climb
      | 'N' => write "!null"
      | _ => invalid

/-- A trait with the types that its items are bound to. -/
def bound : Nat → Writer Unit
  | 0 => fail .tooDeep
  | fuel + 1 => do
    let isOpen ← openPath fuel
    projections (type fuel) ((← read).size + 1) isOpen

/-- A path whose arguments, if it has any, are not yet closed; whether it has any. -/
def openPath : Nat → Writer Bool
  | 0 => do
    fail .tooDeep
    return false
  | fuel + 1 => do
    if ← eat 'B' then referring false (openPath fuel)
    else if ← eat 'I' then
      path fuel false
      write "<"
      discard (items ", " (argument fuel))
      return true
    else
      path fuel false
      return false

/-- A constant. Outside a value, whatever is not a literal stands in braces. -/
def constant : Nat → Bool → Writer Unit
  | 0, _ => fail .tooDeep
  | fuel + 1, inValue =>
    reading Scan.letter fun tag => reading Scan.descend fun _ => do
      if tag = 'p' then write "_"
      else if isUnsigned tag then number
      else if isSigned tag then
        if ← eat 'n' then write "-"
        number
      else if tag = 'b' then truth
      else if tag = 'c' then character
      else if tag = 'R' then
        if ← eat 'e' then literal else compound fuel inValue tag
      else if tag = 'B' then referring () (constant fuel inValue)
      else compound fuel inValue tag
      climb

/-- A constant that is no literal, in braces outside a value. -/
def compound : Nat → Bool → Char → Writer Unit
  | 0, _, _ => fail .tooDeep
  | fuel + 1, inValue, tag => do
    let opening : Writer Unit := if inValue then return else write "\x7b"
    let closing : Writer Unit := if inValue then return else write "\x7d"
    match tag with
    | 'e' =>
      opening
      write "*"
      literal
      closing
    | 'R' =>
      opening
      write "&"
      constant fuel true
      closing
    | 'Q' =>
      opening
      write "&mut "
      constant fuel true
      closing
    | 'A' =>
      opening
      bracketed "[" "]" "" (constant fuel true)
      closing
    | 'T' =>
      opening
      bracketed "(" ")" "," (constant fuel true)
      closing
    | 'V' =>
      opening
      path fuel true
      reading Scan.letter fun form =>
        match form with
        | 'U' => closing
        | 'T' => do
          bracketed "(" ")" "" (constant fuel true)
          closing
        | 'S' => do
          bracketed " \x7b " " \x7d" "" (field fuel)
          closing
        | _ => invalid
    | _ => invalid

def field : Nat → Writer Unit
  | 0 => fail .tooDeep
  | fuel + 1 =>
    reading Scan.disambiguator fun _ => reading Scan.ident fun ident => do
      name ident
      write ": "
      constant fuel true

end

/-- More calls than the deepest nesting needs, since a level takes at most four. -/
def maxCalls : Nat := 4 * (Scan.maxDepth + 1)

def maxText : Nat := 1000000

def Sheet.blank (shown : Bool) (place : Place) : Sheet :=
  { place := .ok place, shown := shown, text := "", room := maxText, bound := 0 }

/-- Reads a path without writing it: the place behind it, if it has no fault. -/
def skip? (symbol : Array Char) (place : Place) : Option Place :=
  match (((path maxCalls false).run symbol).run.run (Sheet.blank false place)).2.place with
  | .ok after => some after
  | .error _ => none

/-- Skips the path of the crate that an item was compiled for, if it is named. -/
def skipInstance? (symbol : Array Char) (place : Place) : Option Place :=
  match symbol[place.next]? with
  | some c => if c.isUpper then skip? symbol place else some place
  | none => some place

def text (symbol : Array Char) : String :=
  match ((path maxCalls true).run symbol).run.run (Sheet.blank true ⟨0, 0⟩) with
  | (.ok (), sheet) => sheet.text
  | (.error .full, sheet) => sheet.text ++ "\x7bsize limit reached\x7d"

/-- Reads a symbol of the newer scheme: the text it stands for and the suffix. -/
def decode? (s : List Char) : Option (List Char × List Char) := do
  let inner ← dropAnyLead? ["_R", "R", "__R"] s
  if inner.any fun c => 0x80 ≤ c.toNat then none
  let symbol := inner.toArray
  if !(symbol[0]?.any Char.isUpper) then none
  let place ← skipInstance? symbol (← skip? symbol ⟨0, 0⟩)
  return ((text symbol).toList, inner.drop place.next)

end FlowGuard.CratePath.Tree
