import FlowGuard.Symbol.Itanium.Syntax

/-!
How symbols are written. A declaration is written around the thing it declares, so the marks of pointers,
qualifiers, bounds and parameter lists wait on a stack until the type they belong to is written. Template
parameters are written as the arguments they stand for, which are looked up in the scopes around. Printing
goes down a limited number of levels, like reading.
-/

namespace FlowGuard.Itanium

/-- What waits to be written behind the type inside. -/
inductive Pending where
  | mark (type : Component)
  | params (types : List Component)
  | encoding (name : Name) (types : List Component)

/-- One scope of names: the class that constructors repeat, or arguments for template parameters, and the
argument that is being written, of which list. -/
structure ScopeItem where
  leaf : Option Leaf
  args : Option TemplateArgs
  current : Option (Nat × Nat)

/-- The scopes around, the innermost first. -/
abbrev Scope := List ScopeItem

namespace Scope

def withLeaf (leaf : Option Leaf) (s : Scope) : Scope :=
  match leaf with
  | some _ => ⟨leaf, none, none⟩ :: s
  | none => s

def withArgs (args : Option TemplateArgs) (s : Scope) : Scope :=
  match args with
  | some _ => ⟨none, args, none⟩ :: s
  | none => s

/-- Notes in the innermost scope which argument of which list is being written. -/
def inArg (place index : Nat) : Scope → Scope
  | item :: s => { item with current := some (place, index) } :: s
  | [] => []

def leaf? (s : Scope) : Option Leaf :=
  s.findSome? ScopeItem.leaf

/-- The argument a parameter stands for: the innermost list that is long enough has it. An argument cannot
speak of itself or of those behind it. -/
def arg? (index : Nat) : Scope → Option TemplateArg
  | [] => none
  | ⟨_, some (.mk place args), current⟩ :: s =>
    match args[index]? with
    | some arg =>
      match current with
      | some (p, i) => if p = place ∧ i ≤ index then none else some arg
      | none => some arg
    | none => arg? index s
  | ⟨_, none, _⟩ :: s => arg? index s

end Scope

structure Sheet where
  text : String
  last : Option Char
  pending : List (Nat × Pending)
  serial : Nat
  showParams : Bool
  inClosure : Bool
  inPack : Bool

def Sheet.blank : Sheet :=
  { text := "", last := none, pending := [], serial := 0, showParams := false, inClosure := false,
    inPack := false }

abbrev Printer := StateT Sheet Option

def write (t : String) : Printer Unit :=
  modify fun s => { s with text := s.text ++ t, last := t.toList.getLast?.or s.last }

def space : Printer Unit := do
  if (← get).last != some ' ' then write " "

/-- Asks for room for so many more levels. -/
def stairs (wanted room : Nat) : Printer Unit :=
  if room < wanted then failure else pure ()

/-- Takes the topmost waiting piece off the stack. -/
def takePending : Printer (Option (Nat × Pending)) := do
  let s ← get
  match s.pending with
  | top :: rest =>
    set { s with pending := rest }
    return some top
  | [] => return none

/-- Writes a body while a piece waits, and then the piece if the body did not write it. -/
def around (piece : Pending) (body finish : Printer Unit) : Printer Unit := do
  let id := (← get).serial
  modify fun s => { s with serial := id + 1, pending := (id, piece) :: s.pending }
  body
  match (← get).pending with
  | (top, _) :: rest =>
    if top = id then
      modify fun s => { s with pending := rest }
      finish
  | [] => pure ()

/-- Writes a body while nothing waits. -/
def apart (body : Printer Unit) : Printer Unit := do
  let held := (← get).pending
  modify fun s => { s with pending := [] }
  body
  modify fun s => { s with pending := held }

def writeQualifiers (q : Qualifiers) : Printer Unit := do
  if q.isConst then
    space
    write "const"
  if q.isVolatile then
    space
    write "volatile"
  if q.isRestrict then
    space
    write "restrict"

def writeRef : Option RefQualifier → Printer Unit
  | some r => do
    space
    write r.text
  | none => pure ()

def writeJoined {α : Type} (between : String) (print : α → Printer Unit) : List α → Printer Unit
  | [] => pure ()
  | [a] => print a
  | a :: rest => do
    print a
    write between
    writeJoined between print rest

/-- A reference to a reference is one reference: those that wait on top are dropped. -/
def dropReferences (p : Component → Bool) : List (Nat × Pending) → List (Nat × Pending)
  | (id, .mark t) :: rest => if p t then dropReferences p rest else (id, .mark t) :: rest
  | waiting => waiting

def isReference : Component → Bool
  | .lvalue _ => true
  | .rvalue _ => true
  | _ => false

def isRvalue : Component → Bool
  | .rvalue _ => true
  | _ => false

def lvalueWaits : List (Nat × Pending) → Bool
  | (_, .mark (.lvalue _)) :: _ => true
  | _ => false

/-- Whether parameters need parentheses around what waits, and if so whether a space stands in front. -/
def parentheses? : List (Nat × Pending) → Option Bool
  | [] => none
  | (_, .mark t) :: rest =>
    match t with
    | .qualified _ _ | .memberPointer _ _ => some true
    | .pointer _ | .lvalue _ | .rvalue _ => some false
    | _ => parentheses? rest
  | _ :: rest => parentheses? rest

/-- What a function type says of its object is written behind its parameters. -/
def staysBehind : Pending → Bool
  | .mark (.function _ _ _ _) => true
  | _ => false

/-- Writes what waits, except for what stays behind. -/
def drain (print : Pending → Printer Unit) : Nat → Printer (List (Nat × Pending))
  | 0 => return (← get).pending
  | fuel + 1 => do
    match ← takePending with
    | none => return []
    | some (id, piece) =>
      if staysBehind piece then return (id, piece) :: (← drain print fuel)
      else
        print piece
        drain print fuel

/-- Writes what waits in front of parameters. -/
def drainFront (print : Pending → Printer Unit) : Printer Unit := do
  let kept ← drain print (← get).pending.length
  modify fun s => { s with pending := kept }

/-- Writes all that waits; the fuel is at least the number of pieces. -/
def drainWithin (print : Pending → Printer Unit) : Nat → Printer Unit
  | 0 => pure ()
  | fuel + 1 => do
    match ← takePending with
    | none => pure ()
    | some (_, piece) =>
      print piece
      drainWithin print fuel

def drainAll (print : Pending → Printer Unit) : Printer Unit := do
  drainWithin print (← get).pending.length

/-- How an identifier is shown: names made up for unnamed namespaces are replaced. -/
def shownIdent (name : Ident) : String :=
  let lead := "_GLOBAL_".toList
  if lead.isPrefixOf name then
    match name.drop lead.length with
    | '.' :: 'N' :: _ | '_' :: 'N' :: _ | '$' :: 'N' :: _ => "(anonymous namespace)"
    | _ => String.ofList name
  else String.ofList name

/-- An identifier, which takes levels of its own. -/
def writeIdent (room : Nat) (name : Ident) : Printer Unit := do
  stairs 2 room
  write (shownIdent name)

/-- A number with an `n` in front if it is negative. -/
def shownNumber : List Char → String
  | 'n' :: digits => "-" ++ String.ofList digits
  | digits => String.ofList digits

/-- Whether an array is inside another one, so that no parentheses are needed. -/
def isArray : Pending → Bool
  | .mark (.array _ _) => true
  | .mark (.qualified _ (.array _ _)) => true
  | _ => false

def isQualified : Pending → Bool
  | .mark (.qualified _ _) => true
  | _ => false

/-- Writes what waits around an array; tells whether a space stands in front of the bound. -/
def drainArray (print : Pending → Printer Unit) : Nat → Bool → Printer Bool
  | 0, spaced => return spaced
  | fuel + 1, spaced => do
    match ← takePending with
    | none => return spaced
    | some (_, piece) =>
      if isArray piece then
        print piece
        drainArray print fuel (spaced && isQualified piece)
      else
        space
        if isQualified piece then
          print piece
          space
          write "("
        else
          write "("
          print piece
        drainAll print
        write ")"
        drainArray print fuel spaced

/-- Whether an operand needs no parentheses: a parameter or an object. -/
def Expression.standsAlone : Expression → Bool
  | .functionParam _ => true
  | .primary (.external _ _) => true
  | _ => false

/-- Whether an operator is written behind its operand. -/
def Operator.isStep : Operator → Bool
  | .symbol text 1 => text == "++" || text == "--"
  | _ => false

/-- Whether an operator could be taken for the end of template arguments. -/
def Operator.closes : Operator → Bool
  | .symbol text _ => text == ">"
  | _ => false

namespace Printer

mutual

/-- A function, a datum, or an object made by the compiler. Nothing that waits outside belongs to it. -/
def encoding : Nat → Scope → Encoding → Printer Unit
  | 0, _, _ => failure
  | n + 1, s, .function what types => do
    let s := (s.withLeaf what.leaf?).withArgs what.args?
    apart do
      if (← get).showParams then
        around (.encoding what types) (name n s what) (pending n s (.encoding what types))
      else name n s what
  | n + 1, s, .data what => apart (name n s what)
  | n + 1, s, what => apart (special n s what)

def special : Nat → Scope → Encoding → Printer Unit
  | 0, _, _ => failure
  | n + 1, s, .ofType lead t close => do
    write lead
    component n s t
    write close
  | n + 1, s, .ofName lead what => do
    write lead
    name n s what
  | n + 1, s, .thunk offsets target => do
    write "\x7bvirtual override thunk("
    write (", ".intercalate offsets)
    write ", "
    encoding n s target
    write ")\x7d"
  | n + 1, s, .alias lead target => do
    write lead
    encoding n s target
  | n + 1, s, .construction t base => do
    write "construction vtable for "
    component n s t
    write "-in-"
    component n s base
  | _ + 1, _, .resource path => write ("java resource " ++ path)
  | _ + 1, _, _ => pure ()

def name : Nat → Scope → Name → Printer Unit
  | 0, _, _ => failure
  | n + 1, s, .nested _ q ref path => nested n s q ref path
  | n + 1, s, .unscoped inStd what => unscoped n s inStd what
  | n + 1, s, .template base args => do
    component n (s.withArgs (some args)) base
    templateArgs n s args
  | n + 1, s, what => do
    let shown := (← get).showParams
    modify fun sheet => { sheet with showParams := true }
    localName n s what
    modify fun sheet => { sheet with showParams := shown }

/-- A name inside a function, which is written with its parameters. A string has no name, and what is
inside a default argument is not named. -/
def localName : Nat → Scope → Name → Printer Unit
  | 0, _, _ => failure
  | n + 1, s, .inside outer (some what) => do
    encoding n s outer
    write "::"
    name n s what
  | n + 1, s, .inside outer none => do
    encoding n s outer
    write "::string literal"
  | n + 1, s, .inDefault outer _ => encoding n s outer
  | _ + 1, _, _ => failure

def unscoped : Nat → Scope → Bool → Unqualified → Printer Unit
  | 0, _, _, _ => failure
  | n + 1, s, inStd, what => do
    if inStd then write "std::"
    unqualified n s what

/-- A name in its scopes. What waits on top belongs to it; qualifiers of the object are shown with the
parameters only. -/
def nested : Nat → Scope → Qualifiers → Option RefQualifier → Component → Printer Unit
  | 0, _, _, _, _ => failure
  | n + 1, s, q, ref, path => do
    match path with
    | .plain what => unqualified n s what
    | .member scope what =>
      component n s scope
      write "::"
      unqualified n s what
    | other => component n s other
    match ← takePending with
    | some (_, piece) => pending n s piece
    | none => pure ()
    if (← get).showParams then writeQualifiers q
    writeRef ref

def unqualified : Nat → Scope → Unqualified → Printer Unit
  | 0, _, _ => failure
  | n + 1, s, .mk label tags => do
    match label with
    | .operator op =>
      write "operator"
      operator n s op
    | .constructor none =>
      match s.leaf? with
      | some l => leaf n s l
      | none => failure
    | .constructor (some t) =>
      match s.leaf?, t.leaf? with
      | some _, some l => leaf n s l
      | _, _ => failure
    | .destructor =>
      match s.leaf? with
      | some l =>
        write "~"
        leaf n s l
      | none => failure
    | .source what => writeIdent n what
    | .closure params number => leaf n s (.closure params number)
    | .unnamed number =>
      stairs 1 n
      write ("\x7bunnamed type#" ++ toString (max number 1) ++ "\x7d")
    tags.forM fun tag => do
      write "[abi:"
      writeIdent n tag
      write "]"

def leaf : Nat → Scope → Leaf → Printer Unit
  | 0, _, _ => failure
  | n + 1, _, .source what => writeIdent n what
  | _ + 1, _, .wellKnown part =>
    match part.className? with
    | some t => write t
    | none => failure
  | n + 1, s, .closure params number => do
    write "\x7blambda("
    closureParams n s params
    write (")#" ++ toString (number + 1) ++ "\x7d")

/-- The parameters of a closure, among which template parameters stand for themselves. -/
def closureParams : Nat → Scope → List Component → Printer Unit
  | 0, _, _ => failure
  | n + 1, s, params => do
    let outer := (← get).inClosure
    modify fun sheet => { sheet with inClosure := true }
    writeJoined ", " (fun t => component n s t) params
    modify fun sheet => { sheet with inClosure := outer }

/-- An operator behind its word, or between operands. -/
def operator : Nat → Scope → Operator → Printer Unit
  | 0, _, _ => failure
  | n + 1, _, .symbol text _ => do
    stairs 1 n
    if text.startsWith "new" || text.startsWith "delete" then space
    write text
  | n + 1, s, .conversion t => do
    space
    component n (s.withArgs t.args?) t
  | n + 1, _, .literal what => do
    writeIdent n what
    write "::operator \"\""
  | n + 1, _, .vendor arity what => do
    writeIdent n what
    write ("::operator " ++ toString arity)

def component : Nat → Scope → Component → Printer Unit
  | 0, _, _ => failure
  | n + 1, s, c => do
    match c with
    | .builtin text =>
      stairs 1 n
      write text
    | .vendorBuiltin what => writeIdent n what
    | .wellKnown part => write part.text
    | .unscoped inStd what => unscoped n s inStd what
    | .plain what => unqualified n s what
    | .member scope what =>
      component n s scope
      write "::"
      unqualified n s what
    | .dataMember scope what =>
      component n s scope
      write "::"
      writeIdent n what
    | .applied base args =>
      component n s base
      templateArgs n s args
    | .param index => param n s index
    | .vendor what args t =>
      component n s t
      write " "
      writeIdent n what
      match args with
      | some args => templateArgs n s args
      | none => pure ()
    | .expansion t =>
      component n s t
      if !(← get).inPack then write "..."
    | .complex t =>
      component n s t
      write " complex"
    | .imaginary t =>
      component n s t
      write " imaginary"
    | .qualified _ t | .pointer t | .lvalue t | .rvalue t =>
      around (.mark c) (component n s t) (pending n s (.mark c))
    | other => compound n s other

def compound : Nat → Scope → Component → Printer Unit
  | 0, _, _ => failure
  | n + 1, s, c => do
    match c with
    | .bitInt sign width =>
      write (sign ++ " _BitInt(")
      expression n s width
      write ")"
    | .decltype e =>
      write "decltype ("
      expression n s e
      write ")"
    | .named keyword what =>
      write keyword
      name n s what
    | .function _ _ _ types => around (.mark c) (function n s types) (pending n s (.mark c))
    | .array _ t | .vector _ t | .memberPointer _ t =>
      around (.mark c) (component n s t) (pending n s (.mark c))
    | _ => pure ()

/-- A template parameter, written as the argument it stands for. -/
def param : Nat → Scope → Nat → Printer Unit
  | 0, _, _ => failure
  | n + 1, s, index => do
    if (← get).inClosure then write ("auto:" ++ toString (index + 1))
    else
      match s.arg? index with
      | some arg => templateArg n s arg
      | none => failure

def function : Nat → Scope → List Component → Printer Unit
  | 0, _, _ => failure
  | _ + 1, _, [] => failure
  | n + 1, s, result :: params =>
    around (.params (result :: params)) (component n s result) (do
      space
      pending n s (.params (result :: params)))

def pending : Nat → Scope → Pending → Printer Unit
  | 0, _, _ => failure
  | n + 1, s, .params types => parameters n s false (types.drop 1)
  | n + 1, s, .encoding what types =>
    match what.args? with
    | some args =>
      parameters n (s.withArgs (some args)) what.takesObject
        (if what.lacksResult then types else types.drop 1)
    | none => parameters n s what.takesObject types
  | n + 1, s, .mark c => do
    match c with
    | .qualified q _ => writeQualifiers q
    | .pointer _ => write "*"
    | .lvalue _ =>
      modify fun sheet => { sheet with pending := dropReferences isReference sheet.pending }
      write "&"
    | .rvalue _ =>
      modify fun sheet => { sheet with pending := dropReferences isRvalue sheet.pending }
      if !lvalueWaits (← get).pending then write "&&"
    | .function q ref throws _ =>
      writeQualifiers q
      writeRef ref
      match throws with
      | .unknown => pure ()
      | .nothing => write " noexcept"
      | .nothingIf e =>
        write " noexcept("
        expression n s e
        write ")"
    | .array bound _ =>
      if ← drainArray (fun piece => pending n s piece) (← get).pending.length true then space
      write "["
      match bound with
      | some e => expression n s e
      | none => pure ()
      write "]"
    | .vector bound _ =>
      write " __vector("
      expression n s bound
      write ")"
    | .memberPointer owner _ =>
      if (← get).last != some '(' then write " "
      component n s owner
      write "::*"
    | _ => pure ()

/-- Parameters in parentheses, between what waits for the function and what its type says of its object.
The object may be the first parameter. -/
def parameters : Nat → Scope → Bool → List Component → Printer Unit
  | 0, _, _, _ => failure
  | n + 1, s, takesObject, types => do
    let wrapped := parentheses? (← get).pending
    match wrapped with
    | some spaced =>
      if spaced || !((← get).last == some '(' || (← get).last == some '*') then space
      write "("
    | none => pure ()
    drainFront (fun piece => pending n s piece)
    if wrapped.isSome then write ")"
    write "("
    let all : Printer Unit := do
      if takesObject then write "this "
      writeJoined ", " (fun t => component n s t) types
    match types with
    | [t] => if !t.isVoid then all
    | _ => all
    write ")"
    drainAll (fun piece => pending n s piece)

/-- Template arguments in angle brackets, which are kept apart from others by spaces. -/
def templateArgs : Nat → Scope → TemplateArgs → Printer Unit
  | 0, _, _ => failure
  | n + 1, s, .mk place args =>
    apart do
      if (← get).last = some '<' then write " "
      write "<"
      writeJoined ", " (fun (arg, index) => templateArg n (s.inArg place index) arg) args.zipIdx
      if (← get).last = some '>' then write " "
      write ">"

def templateArg : Nat → Scope → TemplateArg → Printer Unit
  | 0, _, _ => failure
  | n + 1, s, .type t => component n s t
  | n + 1, s, .expression e => expression n s e
  | n + 1, s, .primary p => primary n s p
  | n + 1, s, .pack args => do
    modify fun sheet => { sheet with inPack := true }
    writeJoined ", " (fun arg => templateArg n s arg) args

def expression : Nat → Scope → Expression → Printer Unit
  | 0, _, _ => failure
  | n + 1, s, e => do
    let all (es : List Expression) : Printer Unit := writeJoined ", " (fun e => expression n s e) es
    let operand (e : Expression) : Printer Unit := do
      if e.standsAlone then expression n s e
      else
        write "("
        expression n s e
        write ")"
    match e with
    | .number value => write (toString value)
    | .step mark e =>
      write mark
      expression n s e
    | .unary op e =>
      if op.isStep then
        operand e
        operator n s op
      else
        operator n s op
        operand e
    | .binary op left right =>
      if op.closes then write "("
      operand left
      operator n s op
      operand right
      if op.closes then write ")"
    | .ternary (.symbol "?:" _) first second third =>
      operand first
      write " ? "
      operand second
      write " : "
      operand third
    | .ternary op first second third =>
      operator n s op
      write "("
      all [first, second, third]
      write ")"
    | .call callee args =>
      write "("
      expression n s callee
      write ")("
      all args
      write ")"
    | .convert t e =>
      write "("
      component n s t
      write ")("
      expression n s e
      write ")"
    | .construct t args =>
      component n s t
      write "("
      all args
      write ")"
    | .braced t args =>
      match t with
      | some t => component n s t
      | none => pure ()
      write "\x7b"
      all args
      write "\x7d"
    | .part t object offset => objectPart n s t object offset
    | .create keyword args t initial =>
      write (keyword ++ " (")
      all args
      write ") "
      component n s t
      match initial with
      | some es =>
        write "("
        all es
        write ")"
      | none => pure ()
    | .delete keyword e =>
      write (keyword ++ " ")
      expression n s e
    | .castBy keyword t e =>
      write (keyword ++ "<")
      component n s t
      write ">("
      expression n s e
      write ")"
    | .queryType keyword t =>
      write (keyword ++ " (")
      component n s t
      write ")"
    | .query keyword e =>
      write (keyword ++ " (")
      expression n s e
      write ")"
    | .param index => param n s index
    | .functionParam none => write "this"
    | .functionParam (some index) => write ("\x7bparm#" ++ toString (index + 1) ++ "\x7d")
    | .member object what =>
      operand object
      write "."
      memberName n s what
    | .memberThrough object what =>
      expression n s object
      write "->"
      memberName n s what
    | .memberAt object pointer =>
      expression n s object
      write ".*"
      expression n s pointer
    | .packSize e =>
      write "sizeof...("
      expression n s e
      write ")"
    | .packSizeOf args =>
      write "sizeof...("
      writeJoined ", " (fun arg => templateArg n s arg) args
      write ")"
    | .expansion e =>
      operand e
      write "..."
    | .throwing e =>
      write "throw "
      expression n s e
    | .rethrow => write "throw"
    | .unresolved isGlobal t scopes last =>
      if isGlobal then write "::"
      match t with
      | some t =>
        component n s t
        write "::"
      | none => pure ()
      scopes.forM fun scope => do
        simpleName n s scope
        write "::"
      lastName n s last
    | .primary p => primary n s p

def objectPart : Nat → Scope → Component → Expression → String → Printer Unit
  | 0, _, _, _, _ => failure
  | n + 1, s, t, object, offset => do
    write "("
    expression n s object
    write ".<"
    component n s t
    write (" at offset " ++ offset ++ ">)")

/-- The name of a member, in parentheses if it ends in template arguments. -/
def memberName : Nat → Scope → Name → Printer Unit
  | 0, _, _ => failure
  | n + 1, s, what => do
    let wrapped := what.args?.isSome
    if wrapped then write "("
    name n s what
    if wrapped then write ")"

def simpleName : Nat → Scope → SimpleName → Printer Unit
  | 0, _, _ => failure
  | n + 1, s, .mk what args => do
    writeIdent n what
    match args with
    | some args => templateArgs n s args
    | none => pure ()

def lastName : Nat → Scope → LastName → Printer Unit
  | 0, _, _ => failure
  | n + 1, s, .simple what => simpleName n s what
  | n + 1, s, .operator op args => do
    operator n s op
    match args with
    | some args => templateArgs n s args
    | none => pure ()
  | n + 1, s, .destructorOf t => do
    write "~"
    component n s t
  | n + 1, s, .destructor what => do
    write "~"
    simpleName n s what

/-- A literal of some type, or an object. Integers are plain numbers, truth values are words, and the
rest is written as a conversion of its digits. Objects are shown with parameters. -/
def primary : Nat → Scope → Primary → Printer Unit
  | 0, _, _ => failure
  | n + 1, s, .literal t value =>
    match t, value with
    | .builtin "bool", ['0'] => write "false"
    | .builtin "bool", ['1'] => write "true"
    | .builtin "std::nullptr_t", _ => write "nullptr"
    | .builtin "int", _ => write (shownNumber value)
    | .builtin "double", _ => write ("(double)[" ++ shownNumber value ++ "]")
    | .builtin "float", _ => write ("(float)[" ++ shownNumber value ++ "]")
    | _, _ => do
      write "("
      component n s t
      write (")" ++ shownNumber value)
  | n + 1, s, .external target suffixes => do
    let shown := (← get).showParams
    modify fun sheet => { sheet with showParams := true }
    mangled n s target suffixes
    modify fun sheet => { sheet with showParams := shown }

def mangled : Nat → Scope → Encoding → List String → Printer Unit
  | 0, _, _, _ => failure
  | n + 1, s, target, suffixes => do
    encoding n s target
    suffixes.forM write

end

end Printer

/-- How many levels a printed symbol may be nested. -/
def printingRoom : Nat := 126

/-- The text of what a symbol stands for: its qualified name, without parameters and result. -/
def Encoding.text? (what : Encoding) : Option String := do
  let (_, sheet) ← (Printer.encoding printingRoom [] what).run Sheet.blank
  return sheet.text

end FlowGuard.Itanium
