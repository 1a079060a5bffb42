import FlowGuard.Symbol.CratePath.Scan
import FlowGuard.Text.Visible

/-!
Writing a path while its symbol is read. Reading stops at the first fault, which is written where it is
met; what is still to be written goes on, with a question mark for each piece that cannot be read. The
text has a limit, since references to earlier pieces can make it long.
-/

namespace FlowGuard.CratePath

structure Sheet where
  /-- Where the symbol is read, or the fault that was met. -/
  place : Except Fault Place
  /-- Whether pieces are written at all, or only read. -/
  shown : Bool
  text : String
  /-- How many bytes may still be written. -/
  room : Nat
  /-- How many lifetimes are bound around this place. -/
  bound : Nat

inductive Full where
  | full

abbrev Writer := ReaderT (Array Char) (ExceptT Full (StateM Sheet))

namespace Writer

/-- Writes a piece whole, or ends the text if there is no room for it. -/
def write (piece : String) : Writer Unit := do
  let sheet ← get
  if sheet.shown then
    if piece.utf8ByteSize ≤ sheet.room then
      set { sheet with text := sheet.text ++ piece, room := sheet.room - piece.utf8ByteSize }
    else throw .full

def writeAll (pieces : List String) : Writer Unit :=
  pieces.forM write

def fail (fault : Fault) : Writer Unit := do
  write fault.message
  modify fun sheet => { sheet with place := .error fault }

def invalid : Writer Unit := fail .invalid

def isSound : Writer Bool := do
  match (← get).place with
  | .ok _ => return true
  | .error _ => return false

/-- Goes on with what a scan reads. A fault ends this piece, and after a fault the piece is a question
mark. -/
def reading {α : Type} (scan : Scan α) (next : α → Writer Unit) : Writer Unit := do
  match (← get).place with
  | .error _ => write "?"
  | .ok place =>
    match scan (← read) place with
    | .ok (a, place) =>
      modify fun sheet => { sheet with place := .ok place }
      next a
    | .error fault => fail fault

def eat (c : Char) : Writer Bool := do
  match (← get).place with
  | .error _ => return false
  | .ok place =>
    match Scan.eat c (← read) place with
    | .ok (found, place) =>
      modify fun sheet => { sheet with place := .ok place }
      return found
    | .error _ => return false

/-- Changes the place unless a fault has been met. -/
def moved (f : Place → Place) : Writer Unit :=
  modify fun sheet => { sheet with place := sheet.place.map f }

def climb : Writer Unit :=
  moved fun place => { place with depth := place.depth - 1 }

def stepBack : Writer Unit :=
  moved fun place => { place with next := place.next - 1 }

def silently (body : Writer Unit) : Writer Unit := do
  let shown := (← get).shown
  modify fun sheet => { sheet with shown := false }
  body
  modify fun sheet => { sheet with shown := shown }

/-- Writes an earlier piece in place of a reference to it. A fault in it does not reach beyond it. When
nothing is shown, references are not followed, and the result is `unseen`. -/
def referring {α : Type} (unseen : α) (body : Writer α) : Writer α := do
  match (← get).place with
  | .error _ =>
    write "?"
    return unseen
  | .ok place =>
    match Scan.target (← read) place with
    | .error fault =>
      fail fault
      return unseen
    | .ok (target, after) =>
      if (← get).shown then
        modify fun sheet => { sheet with place := .ok target }
        let result ← body
        modify fun sheet => { sheet with place := .ok after }
        return result
      else
        modify fun sheet => { sheet with place := .ok after }
        return unseen

/-- Items up to an `E`, with `mark` between them; how many there were. The fuel is the length of the
symbol and one more, since an item takes a character at least. -/
def itemsWithin (mark : String) (item : Writer Unit) : Nat → Nat → Writer Nat
  | 0, count => return count
  | fuel + 1, count => do
    if !(← isSound) then return count
    if ← eat 'E' then return count
    if 0 < count then write mark
    item
    itemsWithin mark item fuel (count + 1)

def items (mark : String) (item : Writer Unit) : Writer Nat := do
  itemsWithin mark item ((← read).size + 1) 0

/-- Items between brackets. A single item may have to be followed by a comma. -/
def bracketed (opening closing : String) (single : String) (item : Writer Unit) : Writer Unit := do
  write opening
  let count ← items ", " item
  if count = 1 then write single
  write closing

/-- A lifetime, counted from the innermost that is bound; zero is the one without a name. The first 26
are named by letters. -/
def lifetime (index : Nat) : Writer Unit := do
  let sheet ← get
  if sheet.shown then
    write "'"
    if index = 0 then write "_"
    else if sheet.bound < index then invalid
    else
      let depth := sheet.bound - index
      if depth < 26 then write (String.singleton (Char.ofNat ('a'.toNat + depth)))
      else
        write "_"
        write (toString depth)

/-- Binds as many lifetimes as given, and writes each. -/
def bindLifetimes (first : Bool) : Nat → Writer Unit
  | 0 => return
  | count + 1 => do
    if !first then write ", "
    modify fun sheet => { sheet with bound := sheet.bound + 1 }
    lifetime 1
    bindLifetimes false count

/-- A piece in which lifetimes may be bound. -/
def binding (body : Writer Unit) : Writer Unit :=
  reading (Scan.marked62 'G') fun count => do
    if (← get).shown then
      if 0 < count then
        write "for<"
        bindLifetimes true count
        write "> "
      body
      modify fun sheet => { sheet with bound := sheet.bound - count }
    else body

def name (ident : Ident) : Writer Unit :=
  writeAll ident.pieces

/-- How a character is written between quotes. A quote of the other kind is written as it is. -/
def quotedChar (quote c : Char) : String :=
  match c with
  | '\x00' => "\\0"
  | '\t' => "\\t"
  | '\r' => "\\r"
  | '\n' => "\\n"
  | '\\' => "\\\\"
  | '\'' => if quote = c then "\\'" else "'"
  | '"' => if quote = c then "\\\"" else "\""
  | c =>
    if Visible.isVisible c then String.singleton c
    else "\\u\x7b" ++ String.ofList (Nat.toDigits 16 c.toNat) ++ "\x7d"

def quoted (quote : Char) (text : List Char) : Writer Unit := do
  write (String.singleton quote)
  text.forM fun c => (quotedChar quote c).toList.forM fun piece => write (String.singleton piece)
  write (String.singleton quote)

end Writer

end FlowGuard.CratePath
