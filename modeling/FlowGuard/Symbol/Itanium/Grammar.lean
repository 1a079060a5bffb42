import FlowGuard.Symbol.Itanium.Reader

/-!
The grammar of symbols. Every production takes one level of the room it is given, so that the room bounds
how deep parts are nested; the order of the alternatives decides between readings.
-/

namespace FlowGuard.Itanium

/-- Puts a scope into the table, unless it is the last of its name. -/
def keepScope (c : Component) : Reader Component := do
  if (← peek) = some 'E' then return c else remember c

/-- A name behind the scopes read so far. -/
def behind (scope : Option Component) (name : Unqualified) : Component :=
  match scope with
  | some s => .member s name
  | none => .plain name

/-- The end of a nested name is a name: a well-known part or a type is none. -/
def endsName : Component → Bool
  | .member _ _ => true
  | .applied _ _ => true
  | .plain _ => true
  | _ => false

def constructorDigits : List Char := ['1', '2', '3', '4']

def destructorDigits : List Char := ['0', '1', '2', '4']

/-- The two letters in front of expressions on types or on expressions, and the words they stand for. -/
def typeQueries : List (String × String) :=
  [("ti", "typeid"), ("st", "sizeof"), ("at", "alignof")]

def expressionQueries : List (String × String) :=
  [("te", "typeid"), ("sz", "sizeof"), ("az", "alignof"), ("nx", "noexcept")]

def casts : List (String × String) :=
  [("dc", "dynamic_cast"), ("sc", "static_cast"), ("cc", "const_cast"), ("rc", "reinterpret_cast")]

def creations : List (String × String) :=
  [("nw", "new"), ("na", "new[]")]

def deletions : List (String × String) :=
  [("dl", "delete"), ("da", "delete[]")]

/-- The word that the next two letters stand for; the letters are read if there is one. -/
def keyword? (table : List (String × String)) : Reader (Option String) := do
  let rest ← get
  match table.lookup (String.ofList (rest.take 2)) with
  | some word =>
    set (rest.drop 2)
    return some word
  | none => return none

namespace Grammar

mutual

/-- A name with the types of a function behind it, a name alone, or an object made by the compiler. -/
def encoding : Nat → Reader Encoding
  | 0 => tooDeep
  | n + 1 => do
    match ← attempt (name n) with
    | some what =>
      match ← attempt (bareFunction n) with
      | some types => return .function what types
      | none => return .data what
    | none => special n

def bareFunction : Nat → Reader (List Component)
  | 0 => tooDeep
  | n + 1 => many1 (type n)

def name : Nat → Reader Name
  | 0 => tooDeep
  | n + 1 => do
    if let some nested ← attempt (nestedName n) then return nested
    if let some (inStd, what) ← attempt (unscopedName n) then
      if (← peek) = some 'I' then
        let base ← remember (.unscoped inStd what)
        return .template base (← templateArgs n)
      else return .unscoped inStd what
    if let some base ← attempt (templateName n) then return .template base (← templateArgs n)
    localName n

/-- A name outside all scopes, or in `std`. -/
def unscopedName : Nat → Reader (Bool × Unqualified)
  | 0 => tooDeep
  | n + 1 => do
    let inStd ← accept "St"
    return (inStd, ← unqualified n)

def templateName : Nat → Reader Component
  | 0 => tooDeep
  | n + 1 => do
    match ← attempt (unscopedName n) with
    | some (inStd, what) => remember (.unscoped inStd what)
    | none => substitution n

/-- A name in scopes, between `N` and `E`. -/
def nestedName : Nat → Reader Name
  | 0 => tooDeep
  | n + 1 => do
    expect "N"
    let takesObject ← accept "H"
    let q ← if takesObject then pure .none else qualifiers n
    let ref ← if takesObject then pure none else refQualifier n
    let path ← scopes n
    expect "E"
    if endsName path then return .nested takesObject q ref path else mismatch

/-- Scopes, each in the one before. -/
def scopes : Nat → Reader Component
  | 0 => tooDeep
  | n + 1 => do
    match ← growing (fun scope => nextScope n scope) ((← get).length + 1) none with
    | some path => return path
    | none => mismatch

def nextScope : Nat → Option Component → Reader (Option (Option Component))
  | 0, _ => tooDeep
  | n + 1, scope => do
    match ← peek with
    | some 'S' => return some (some (← substitution n))
    | some 'T' => return some (some (← keepScope (.param (← templateParam n))))
    | some 'I' =>
      match scope with
      | some base => return some (some (← keepScope (.applied base (← templateArgs n))))
      | none => return none
    | some 'D' =>
      match ← attempt (decltype n) with
      | some e => return some (some (← keepScope (.decltype e)))
      | none => return some (some (← keepScope (behind scope (← unqualified n))))
    | some c =>
      if let (some outer, true) := (scope, c.isDigit) then
        let what ← sourceName n
        if ← accept "M" then return some (some (← remember (.dataMember outer what)))
        let what := Unqualified.mk (.source what) (← tags n)
        return some (some (← keepScope (.member outer what)))
      else if startsName c then return some (some (← keepScope (behind scope (← unqualified n))))
      else return none
    | none => return none

def unqualified : Nat → Reader Unqualified
  | 0 => tooDeep
  | n + 1 => do
    if let some op ← attempt (operator n) then return .mk (.operator op) (← tags n)
    if let some label ← attempt (constructorName n) then return .mk label (← tags n)
    if ← accept "L" then
      let what ← sourceName n
      let _ ← attempt (discriminator n)
      return .mk (.source what) (← tags n)
    if let some what ← attempt (sourceName n) then return .mk (.source what) (← tags n)
    if let some label ← attempt (closure n) then return .mk label (← tags n)
    levels 1 n
    expect "Ut"
    let number ← ordinal 10
    return .mk (.unnamed number) (← tags n)

def operator : Nat → Reader Operator
  | 0 => tooDeep
  | n + 1 => do
    if let some op ← attempt (simpleOperator n) then return op
    if ← accept "cv" then return .conversion (← asConversion true (type n))
    if ← accept "li" then return .literal (← sourceName n)
    expect "v"
    match ← get with
    | c :: rest =>
      if !c.isDigit then mismatch
      set rest
      return .vendor (digitValue c) (← sourceName n)
    | [] => mismatch

/-- A constructor, with the type it is inherited from if it is, or a destructor. -/
def constructorName : Nat → Reader Label
  | 0 => tooDeep
  | n + 1 => do
    match ← get with
    | 'C' :: 'I' :: c :: rest =>
      if !constructorDigits.contains c then mismatch
      set rest
      return .constructor (some (← type n))
    | 'C' :: c :: rest =>
      if !constructorDigits.contains c then mismatch
      set rest
      return .constructor none
    | 'D' :: c :: rest =>
      if !destructorDigits.contains c then mismatch
      set rest
      return .destructor
    | _ => mismatch

/-- A closure by its parameters and its number. -/
def closure : Nat → Reader Label
  | 0 => tooDeep
  | n + 1 => do
    expect "Ul"
    let params ← closureParams n
    expect "E"
    return .closure params (← ordinal 10)

def closureParams : Nat → Reader (List Component)
  | 0 => tooDeep
  | n + 1 => do
    if ← accept "v" then return [] else many1 (type n)

/-- A name inside a function. -/
def localName : Nat → Reader Name
  | 0 => tooDeep
  | n + 1 => do
    expect "Z"
    let outer ← encoding n
    expect "E"
    if ← accept "s" then
      let _ ← attempt (discriminator n)
      return .inside outer none
    if ← accept "d" then
      let _ ← attempt signedNumber
      expect "_"
      return .inDefault outer (← name n)
    let what ← name n
    let _ ← attempt (discriminator n)
    return .inside outer (some what)

def decltype : Nat → Reader Expression
  | 0 => tooDeep
  | n + 1 => do
    if !(← accept "Dt") then expect "DT"
    let e ← expression n
    expect "E"
    return e

def classEnum : Nat → Reader Component
  | 0 => tooDeep
  | n + 1 => do
    if let some what ← attempt (name n) then return .named "" what
    if ← accept "Ts" then return .named "class " (← name n)
    if ← accept "Tu" then return .named "union " (← name n)
    expect "Te"
    return .named "enum " (← name n)

/-- A builtin type: letters of its own, a width, or a name behind a `u`. -/
def builtinType : Nat → Reader Component
  | 0 => tooDeep
  | n + 1 => do
    if let some t ← attempt (letteredType n) then return t
    if let some t ← attempt (wideType n) then return t
    expect "u"
    return .vendorBuiltin (← sourceName n)

def wideType : Nat → Reader Component
  | 0 => tooDeep
  | n + 1 => do
    if let some t ← attempt floatType then return t
    let sign ← if ← accept "DB" then pure "signed" else do
      expect "DU"
      pure "unsigned"
    if (← peek).any Char.isDigit then
      let bits ← width
      expect "_"
      return .builtin (sign ++ " _BitInt(" ++ toString bits ++ ")")
    let bits ← expression n
    expect "_"
    return .bitInt sign bits

/-- A type. All but builtin types and back references go into the table. -/
def type : Nat → Reader Component
  | 0 => tooDeep
  | n + 1 => do
    if let some t ← attempt (builtinType n) then return t
    if let some t ← attempt (functionType n) then return ← remember t
    let q ← qualifiers n
    if q != .none then return ← remember (.qualified q (← type n))
    if ← accept "U" then
      let what ← sourceName n
      let args ← attempt (templateArgs n)
      return ← remember (.vendor what args (← type n))
    if let some t ← attempt (classEnum n) then return ← remember t
    let referred ← attempt do
      let t ← substitution n
      if (← peek) = some 'I' then mismatch
      return t
    if let some t := referred then return t
    if let some t ← attempt (arrayType n) then return ← remember t
    if let some t ← attempt (vectorType n) then return ← remember t
    if let some t ← attempt (memberPointer n) then return ← remember t
    let param ← attempt do
      let index ← templateParam n
      if (← peek) != some 'I' then return index
      if !(← inConversion) then mismatch
      let alone ← probe do
        let _ ← templateArgs n
        if (← peek) = some 'I' then mismatch
      if !alone then mismatch
      return index
    if let some index := param then return ← remember (.param index)
    if let some base ← attempt (templateTemplate n) then
      return ← remember (.applied base (← templateArgs n))
    if let some e ← attempt (decltype n) then return ← remember (.decltype e)
    if ← accept "P" then return ← remember (.pointer (← type n))
    if ← accept "R" then return ← remember (.lvalue (← type n))
    if ← accept "O" then return ← remember (.rvalue (← type n))
    if ← accept "C" then return ← remember (.complex (← type n))
    if ← accept "G" then return ← remember (.imaginary (← type n))
    expect "Dp"
    remember (.expansion (← type n))

/-- A template that is a parameter or a back reference. -/
def templateTemplate : Nat → Reader Component
  | 0 => tooDeep
  | n + 1 => do
    if let some base ← attempt (substitution n) then return base
    remember (.param (← templateParam n))

/-- The type of a function, between `F` and `E`. -/
def functionType : Nat → Reader Component
  | 0 => tooDeep
  | n + 1 => do
    let q ← qualifiers n
    let throws ← attempt (exceptions n)
    let _ ← accept "Dx"
    expect "F"
    let _ ← accept "Y"
    let types ← bareFunction n
    let ref ← refQualifier n
    expect "E"
    return .function q ref (throws.getD .unknown) types

def exceptions : Nat → Reader Throws
  | 0 => tooDeep
  | n + 1 => do
    if ← accept "Do" then return .nothing
    expect "DO"
    let condition ← expression n
    expect "E"
    return .nothingIf condition

def arrayType : Nat → Reader Component
  | 0 => tooDeep
  | n + 1 => do
    expect "A"
    match ← attempt number with
    | some length =>
      expect "_"
      return .array (some (.number length)) (← type n)
    | none =>
      let bound ← attempt (expression n)
      expect "_"
      return .array bound (← type n)

def vectorType : Nat → Reader Component
  | 0 => tooDeep
  | n + 1 => do
    expect "Dv"
    match ← attempt number with
    | some length =>
      expect "_"
      return .vector (.number length) (← type n)
    | none =>
      let bound ← expression n
      expect "_"
      return .vector bound (← type n)

def memberPointer : Nat → Reader Component
  | 0 => tooDeep
  | n + 1 => do
    expect "M"
    let owner ← type n
    return .memberPointer owner (← type n)

/-- Template arguments between `I` and `E`. -/
def templateArgs : Nat → Reader TemplateArgs
  | 0 => tooDeep
  | n + 1 => do
    let place := (← get).length
    expect "I"
    let args ← many1 (templateArg n)
    expect "E"
    return .mk place args

/-- An expression, a literal, a type, or a pack of arguments. -/
def templateArg : Nat → Reader TemplateArg
  | 0 => tooDeep
  | n + 1 => do
    if ← accept "X" then
      let e ← expression n
      expect "E"
      return .expression e
    if let some p ← attempt (primary n) then return .primary p
    if let some t ← attempt (type n) then return .type t
    if !(← accept "J") then expect "I"
    let args ← many (templateArg n)
    expect "E"
    return .pack args

/-- A literal, or an object by its symbol. -/
def primary : Nat → Reader Primary
  | 0 => tooDeep
  | n + 1 => do
    expect "L"
    match ← attempt (type n) with
    | some t =>
      let value ← stretch (· != 'E')
      expect "E"
      return .literal t value
    | none =>
      let (target, suffixes) ← mangled n
      expect "E"
      return .external target suffixes

/-- A symbol inside another one, with the suffixes of copies. -/
def mangled : Nat → Reader (Encoding × List String)
  | 0 => tooDeep
  | n + 1 => do
    if !(← accept "_Z") then expect "__Z"
    let what ← encoding n
    return (what, ← many (copySuffix n))

/-- An expression on template parameters. -/
def expression : Nat → Reader Expression
  | 0 => tooDeep
  | n + 1 => do
    let list : Reader (List Expression) := do
      let es ← many (expression n)
      expect "E"
      return es
    if ← accept "pp_" then return .step "++" (← expression n)
    if ← accept "mm_" then return .step "--" (← expression n)
    if ← accept "cl" then
      let callee ← expression n
      return .call callee (← list)
    if ← accept "cv" then
      let t ← type n
      if ← accept "_" then return .construct t (← list)
      return .convert t (← expression n)
    if ← accept "tl" then
      let t ← type n
      return .braced (some t) (← list)
    if ← accept "il" then
      let e ← expression n
      expect "E"
      return .braced none [e]
    if let some word ← keyword? casts then
      let t ← type n
      return .castBy word t (← expression n)
    if let some word ← keyword? typeQueries then return .queryType word (← type n)
    if let some word ← keyword? expressionQueries then return .query word (← expression n)
    if ← accept "so" then return ← objectPart n
    if ← accept "dt" then
      let object ← expression n
      return .member object (← memberName n)
    if ← accept "pt" then
      let object ← expression n
      return .memberThrough object (← memberName n)
    if ← accept "ds" then
      let object ← expression n
      return .memberAt object (← expression n)
    if ← accept "sZ" then
      match ← attempt (templateParam n) with
      | some index => return .packSize (.param index)
      | none => return .packSize (.functionParam (← functionParam n))
    if ← accept "sP" then
      let args ← many (templateArg n)
      expect "E"
      return .packSizeOf args
    if ← accept "sp" then return .expansion (← expression n)
    if ← accept "tw" then return .throwing (← expression n)
    if ← accept "tr" then return .rethrow
    let allocation (lead : String) : Reader Expression := do
      if let some word ← keyword? deletions then return .delete (lead ++ word) (← expression n)
      match ← keyword? creations with
      | none => mismatch
      | some word =>
        let args ← many (expression n)
        expect "_"
        let t ← type n
        if ← accept "E" then return .create (lead ++ word) args t none
        levels 1 n
        expect "pi"
        return .create (lead ++ word) args t (some (← list))
    let global ← attempt do
      expect "gs"
      allocation "::"
    if let some e := global then return e
    if let some e ← attempt (allocation "") then return e
    if let some index ← attempt (templateParam n) then return .param index
    if let some index ← attempt (functionParam n) then return .functionParam index
    if let some e ← attempt (unresolved n) then return e
    if let some p ← attempt (primary n) then return .primary p
    let op ← operator n
    match op with
    | .symbol _ 2 | .vendor 2 _ =>
      let left ← expression n
      return .binary op left (← expression n)
    | .symbol _ 3 | .vendor 3 _ =>
      let first ← expression n
      let second ← expression n
      return .ternary op first second (← expression n)
    | _ => return .unary op (← expression n)

/-- A part of an object: its type, the object, and the place of the part in it. -/
def objectPart : Nat → Reader Expression
  | 0 => tooDeep
  | n + 1 => do
    let t ← type n
    let object ← expression n
    let offset ← signedNumber
    expect "E"
    return .part t object offset

def memberName : Nat → Reader Name
  | 0 => tooDeep
  | n + 1 => name n

/-- A name that is looked up when the template is used. -/
def unresolved : Nat → Reader Expression
  | 0 => tooDeep
  | n + 1 => do
    if ← accept "gs" then
      if let some last ← attempt (lastName n) then return .unresolved true none [] last
      expect "sr"
      let around ← many1 (qualifyingName n)
      expect "E"
      return .unresolved true none around (← lastName n)
    if let some last ← attempt (lastName n) then return .unresolved false none [] last
    expect "sr"
    if ← accept "N" then
      let t ← unresolvedType n
      let around ← many1 (qualifyingName n)
      expect "E"
      return .unresolved false (some t) around (← lastName n)
    if let some t ← attempt (unresolvedType n) then
      return .unresolved false (some t) [] (← lastName n)
    let around ← many1 (qualifyingName n)
    expect "E"
    return .unresolved false none around (← lastName n)

def unresolvedType : Nat → Reader Component
  | 0 => tooDeep
  | n + 1 => do
    if let some index ← attempt (templateParam n) then
      match ← attempt (templateArgs n) with
      | some args => return ← remember (.applied (.param index) args)
      | none => return ← remember (.param index)
    if let some e ← attempt (decltype n) then return ← remember (.decltype e)
    substitution n

/-- One scope of a name that is looked up. -/
def qualifyingName : Nat → Reader SimpleName
  | 0 => tooDeep
  | n + 1 => simpleName n

def simpleName : Nat → Reader SimpleName
  | 0 => tooDeep
  | n + 1 => do
    let what ← sourceName n
    return .mk what (← attempt (templateArgs n))

/-- The last part of a name that is looked up. -/
def lastName : Nat → Reader LastName
  | 0 => tooDeep
  | n + 1 => do
    if let some what ← attempt (simpleName n) then return .simple what
    if ← accept "on" then
      let op ← operator n
      return .operator op (← attempt (templateArgs n))
    expect "dn"
    destructorName n

/-- The class whose destructor is named. -/
def destructorName : Nat → Reader LastName
  | 0 => tooDeep
  | n + 1 => do
    if let some t ← attempt (unresolvedType n) then return .destructorOf t
    return .destructor (← simpleName n)

/-- The objects that the compiler makes for classes, types, functions and data. -/
def special : Nat → Reader Encoding
  | 0 => tooDeep
  | n + 1 => do
    if ← accept "TV" then return .ofType "\x7bvtable(" (← type n) ")\x7d"
    if ← accept "TT" then return .ofType "\x7bvtt(" (← type n) ")\x7d"
    if ← accept "TI" then return .ofType "typeinfo for " (← type n) ""
    if ← accept "TS" then return .ofType "typeinfo name for " (← type n) ""
    if ← accept "TF" then return .ofType "typeinfo fn for " (← type n) ""
    if ← accept "TH" then return .ofName "TLS init function for " (← name n)
    if ← accept "TW" then return .ofName "TLS wrapper function for " (← name n)
    if ← accept "TC" then
      let t ← type n
      let _ ← number
      expect "_"
      return .construction t (← type n)
    if ← accept "Tc" then
      let first ← callOffset n
      let second ← callOffset n
      return .thunk [first, second] (← encoding n)
    if ← accept "T" then
      let offset ← callOffset n
      return .thunk [offset] (← encoding n)
    if ← accept "GV" then return .ofName "guard variable for " (← name n)
    if ← accept "GR" then
      let what ← name n
      let number ← ordinal 36
      return .ofName ("reference temporary #" ++ toString number ++ " for ") what
    if ← accept "Gr" then return .resource (← resource)
    expect "GT"
    if ← accept "n" then return .alias "non-transaction clone for " (← encoding n)
    if (← get) = [] then mismatch
    set ((← get).drop 1)
    return .alias "transaction clone for " (← encoding n)

end

end Grammar

/-- A whole symbol: an encoding and the suffixes of copies, up to the end. -/
def symbol : Nat → Reader Encoding
  | 0 => tooDeep
  | n + 1 => do
    if !(← accept "_Z") then expect "__Z"
    let what ← Grammar.encoding n
    let _ ← many (copySuffix n)
    if (← get) = [] then return what else mismatch

/-- How many levels a symbol may be nested. -/
def readingRoom : Nat := 95

def Encoding.parse? (s : String) : Option Encoding :=
  match symbol readingRoom s.toList { table := #[], inConversion := false } with
  | (.ok (what, _), _) => some what
  | (.error _, _) => none

end FlowGuard.Itanium
