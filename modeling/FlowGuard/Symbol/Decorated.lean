import FlowGuard.Symbol.Decorated.Reader

/-!
Decorated symbols of the Microsoft C++ scheme, read for their name alone. A symbol is a question mark, a
name, the scopes around it from the inside out, an `@`, and a type. Names that were read can be repeated
by a digit, and so can parameter types that take more than one letter. The type of the symbol has to be
well-formed as far as it is needed to find its end, and is then dropped, unless the name is that of a
conversion; the types among template arguments are spelled out.
-/

namespace FlowGuard.Decorated

/-- The name that stands in front of the scopes. -/
inductive Head where
  | plain (name : Name)
  | constructor
  | destructor
  /-- A conversion, which is named by the type it gives. -/
  | conversion
  /-- A flag that tells whether a static local is ready. Its type is a number. -/
  | guard (text : String)
  deriving DecidableEq, Repr

namespace Head

def text (t : String) : Head := plain (.plain t)

/-- How a name is written in front of template arguments, where no class tells its own name. -/
def standalone : Head → Name
  | plain name => name
  | constructor => .plain "ctor"
  | destructor => .plain "dtor"
  | conversion => .plain "operatorcast"
  | guard text => .plain text

end Head

def doubleUnderscoreName : Reader Head := do
  match ← next with
  | 'J' => return .guard "`local static thread guard'"
  | 'K' => return .text ("operator \"\"" ++ (← plainName))
  | c =>
    match doubleUnderscoreSpecials.lookup c with
    | some text => return .text text
    | none => failure

def specialName : Reader Head := do
  match ← next with
  | '0' => return .constructor
  | '1' => return .destructor
  | 'B' => return .conversion
  | '_' =>
    match ← next with
    | 'B' => return .guard "`local static guard'"
    | '_' => doubleUnderscoreName
    | c =>
      match underscoreSpecials.lookup c with
      | some text => return .text text
      | none => failure
  | c =>
    match specials.lookup c with
    | some text => return .text text
    | none => failure

/-- Names joined from the outside in; they are given from the inside out. -/
def joined (names : List Name) : Name :=
  let names := names.reverse
  ⟨"::".intercalate (names.map Name.text), "::".intercalate (names.map Name.key)⟩

/-- The qualified name; constructors and destructors repeat the innermost scope. -/
def qualified (head : Head) (scopes : List Name) : Option Name :=
  match head with
  | .constructor => scopes.head?.map fun c => joined (c :: scopes)
  | .destructor => scopes.head?.map fun c => joined (⟨"~" ++ c.text, "~" ++ c.key⟩ :: scopes)
  | _ => some (joined (head.standalone :: scopes))

def templateParameter : Reader Spelling := do
  return .phrase ("`template-parameter" ++ toString (← encodedNumber) ++ "'") .none

/-- Which of several guards a symbol is; zero if it is not said. -/
def guardNumber : Reader Int := do
  if !(← accept "4IA") then expect "5"
  if (← peek).isNone then return 0
  let number ← encodedNumber
  if number < 0 then failure
  return number

mutual

/-- A template name and its arguments up to an `@`. It has names and types of its own to repeat. -/
def templateName : Nat → Reader Name
  | 0 => failure
  | fuel + 1 => do
    let outer ← get
    set { outer with names := [], types := [] }
    let head ← headName fuel
    let args ← arguments fuel
    expect "@"
    modify fun s => { s with names := outer.names, types := outer.types }
    return Spelling.bracketed head.standalone args

/-- The name in front of the scopes. The name of a template is not remembered here. -/
def headName : Nat → Reader Head
  | 0 => failure
  | fuel + 1 => do
    if ← accept "?$" then return .plain (← templateName fuel)
    else if ← accept "?_R" then return .text (← typeRecord fuel)
    else if ← accept "?" then specialName
    else
      match ← digit? with
      | some n => return .plain (← nameNumber n)
      | none =>
        let name := Name.plain (← plainName)
        rememberName name
        return .plain name

/-- The records that describe a type at run time. -/
def typeRecord : Nat → Reader String
  | 0 => failure
  | fuel + 1 => do
    match ← next with
    | '0' =>
      expect "?"
      let q ← letterOf placeLetters
      return (← typeName fuel q).text ++ "::`RTTI Type Descriptor'"
    | '1' =>
      let a ← encodedNumber
      let b ← encodedNumber
      let c ← encodedNumber
      let d ← encodedNumber
      let places := ",".intercalate ([a, b, c, d].map toString)
      return "`RTTI Base Class Descriptor at (" ++ places ++ ")'"
    | '2' => return "`RTTI Base Class Array'"
    | '3' => return "`RTTI Class Hierarchy Descriptor'"
    | '4' => return "`RTTI Complete Object Locator'"
    | _ => failure

/-- Types up to an `@` or a `Z`, neither of which is read. A pack without types leaves nothing. -/
def arguments : Nat → Reader (List Spelling)
  | 0 => failure
  | fuel + 1 => do
    match ← peek with
    | some '@' | some 'Z' | none => return []
    | _ =>
      let before := (← get).rest.length
      let t ← typeName fuel .none
      if t.shape = .empty then arguments fuel
      else
        if 1 < before - (← get).rest.length then rememberType t
        return t :: (← arguments fuel)

/-- The scopes up to an `@`, from the inside out. -/
def scopes : Nat → Reader (List Name)
  | 0 => failure
  | fuel + 1 => do
    if ← accept "@" then return []
    let name ← scopeName fuel
    return name :: (← scopes fuel)

/-- One scope: a name, a template, a namespace without a name, an interface, the inside of another
symbol, or a number that tells the blocks of a function apart. -/
def scopeName : Nat → Reader Name
  | 0 => failure
  | fuel + 1 => do
    match ← digit? with
    | some n => nameNumber n
    | none =>
      if ← accept "?$" then
        let name ← templateName fuel
        rememberName name
        return name
      else if ← accept "?A" then
        let name ← unnamedNamespace
        rememberName name
        return name
      else if ← accept "?Q" then
        let name ← className fuel
        return ⟨"[" ++ name.text ++ "]", "[" ++ name.key ++ "]"⟩
      else if ← accept "?" then
        if (← peek) = some '?' then return .plain ("`" ++ (← symbol fuel) ++ "'")
        else return .plain ("`" ++ toString (← encodedNumber) ++ "'")
      else
        let name := Name.plain (← plainName)
        rememberName name
        return name

def className : Nat → Reader Name
  | 0 => failure
  | fuel + 1 => do
    let head ← if ← accept "?$" then do
        let name ← templateName fuel
        rememberName name
        pure (Head.plain name)
      else headName fuel
    match qualified head (← scopes fuel) with
    | some name => return name
    | none => failure

/-- What a pointer or reference points to. Pointers of 64 bits are told from others. -/
def pointee : Nat → Reader Spelling
  | 0 => failure
  | fuel + 1 => do
    let isWide ← accept "E"
    let q ← targetQualifiers
    let target ← typeName fuel q
    return if isWide then { target with key := "64|" ++ target.key } else target

/-- The lengths and the elements of an array. Every length repeats the qualifiers of the elements, which
are given too. -/
def arrayType : Nat → Nat → Reader (Spelling × Qualifiers)
  | 0, _ => failure
  | fuel + 1, 0 => do
    let q ← if ← accept "$$C" then letterOf elementLetters else pure .none
    return (← typeName fuel .none, q)
  | fuel + 1, dimensions + 1 => do
    let length ← encodedNumber
    let (element, q) ← arrayType fuel dimensions
    return (.array length q element, q)

/-- A type as it is spelled in template arguments. The qualifiers come from the place the type stands in;
a repeated type and a pointer with qualifiers of its own have no use for them. -/
def typeName : Nat → Qualifiers → Reader Spelling
  | 0, _ => failure
  | fuel + 1, q => do
    if ← accept "W4" then
      let name ← className fuel
      return .named ⟨"enum " ++ name.text, "enum " ++ name.key⟩ q
    if ← accept "A6" then return .marked "&" q (← functionType fuel .none)
    if ← accept "P6" then return .marked "*" q (← functionType fuel .none)
    if ← accept "P8" then return ← memberPointer fuel q
    if ← accept "$$A6" then return ← functionType fuel .none
    if ← accept "$$A8@@" then
      let object ← objectQualifiers
      return ← functionType fuel object
    if ← accept "$$Q" then return .passing q (← pointee fuel)
    if ← accept "$$T" then return .phrase "std::nullptr_t" .none
    if ← accept "$$V" then return .empty
    if ← accept "$$$V" then return .empty
    if ← accept "$$Z" then return .empty
    if ← accept "$S" then return .empty
    if ← accept "$0" then return .phrase (toString (← encodedNumber)) .none
    if ← accept "$1?" then return ← memberPointer fuel q
    if ← accept "$D" then return ← templateParameter
    if ← accept "$$C" then return ← simpleType fuel (← targetQualifiers)
    if !(← accept "$$B") then
      let _ ← accept "$A"
    simpleType fuel q

/-- A type that starts with neither a dollar sign nor the two letters of a function. -/
def simpleType : Nat → Qualifiers → Reader Spelling
  | 0, _ => failure
  | fuel + 1, q => do
    if (← peek) = some '?' then return ← templateParameter
    match ← digit? with
    | some n => typeNumber n
    | none =>
      match ← next with
      | 'A' => return .marked "&" q (← pointee fuel)
      | 'B' => return .marked "&" .volatile (← pointee fuel)
      | 'P' => return .marked "*" q (← pointee fuel)
      | 'Q' => return .marked "*" .const (← pointee fuel)
      | 'R' => return .marked "*" .volatile (← pointee fuel)
      | 'S' => return .marked "*" .both (← pointee fuel)
      | 'Y' =>
        let dimensions ← encodedNumber
        if dimensions ≤ 0 then failure
        return (← arrayType fuel dimensions.toNat).1
      | '_' =>
        match underscorePrimitives.lookup (← next) with
        | some t => return .phrase t q
        | none => failure
      | c =>
        match namedKinds.lookup c with
        | some kind =>
          let name ← className fuel
          return .named ⟨kind ++ name.text, kind ++ name.key⟩ q
        | none =>
          match primitives.lookup c with
          | some t => return .phrase t q
          | none => failure

/-- A pointer to a member function: a name, the qualifiers of the object, and the rest of the type. -/
def memberPointer : Nat → Qualifiers → Reader Spelling
  | 0, _ => failure
  | fuel + 1, q => do
    let owner ← className fuel
    let object ← objectQualifiers
    return .marked (owner.text ++ "::*") q (← functionType fuel object)

/-- A calling convention, a result and parameters. -/
def functionType : Nat → Qualifiers → Reader Spelling
  | 0, _ => failure
  | fuel + 1, object => do
    let convention ← callingConvention
    let q ← resultQualifiers
    let result ← typeName fuel q
    return .function convention result (← parameters fuel) object

/-- The parameters of a function: a lone `X`, or types that a `Z` ends if more may follow and else an
`@`. A closing `Z` stands behind them. -/
def parameters : Nat → Reader (List Spelling)
  | 0 => failure
  | fuel + 1 => do
    let params ← if ← accept "X" then pure [Spelling.phrase "void" .none]
      else do
        let named ← arguments fuel
        if ← accept "Z" then pure (named ++ [.phrase "..." .none])
        else do
          expect "@"
          pure named
    expect "Z"
    return params

/-- A member function behind its access letter; gives its result. A constructor has an `@` in the place
of a result. -/
def memberFunction : Nat → Bool → Reader Spelling
  | 0, _ => failure
  | fuel + 1, isStatic => do
    if !isStatic then
      let _ ← objectQualifiers
    let _ ← callingConvention
    let q ← resultQualifiers
    let result ← if ← accept "@" then pure (.phrase "" .none) else typeName fuel q
    let _ ← parameters fuel
    return result

/-- The type of a symbol, of which the result is given if it is a function. There may be none, and what
follows a complete type is not read. -/
def symbolType : Nat → Reader (Option Spelling)
  | 0 => failure
  | fuel + 1 => do
    match ← peek with
    | none => return none
    | some c =>
      let _ ← next
      if c = '8' ∨ c = '9' then return none
      else if '0' ≤ c ∧ c ≤ '4' then
        let _ ← typeName fuel .none
        return none
      else if c = '6' ∨ c = '7' then
        let _ ← letterOf? objectLetters
        let _ ← scopes fuel
        return none
      else if c = 'Y' then
        let _ ← callingConvention
        let q ← resultQualifiers
        let result ← typeName fuel q
        let _ ← parameters fuel
        return some result
      else if c = '_' then
        let _ ← letterOf [('0', ()), ('1', ())]
        return none
      else if c = '$' then
        expect "B"
        let _ ← encodedNumber
        expect "A"
        let _ ← callingConvention
        return none
      else if c ∈ adjustingKinds then
        let _ ← encodedNumber
        memberFunction fuel false
      else
        match memberKinds.lookup c with
        | none => failure
        | some isStatic => memberFunction fuel isStatic

def symbol : Nat → Reader String
  | 0 => failure
  | fuel + 1 => do
    expect "?"
    if ← accept "$" then return ← threadSafety fuel
    if ← accept "?@" then return ← hashedSymbol
    let head ← headName fuel
    let around ← scopes fuel
    match head with
    | .conversion =>
      let name := match ← symbolType fuel with
        | some result => Name.plain ("operator " ++ result.text)
        | none => head.standalone
      return (joined (name :: around)).text
    | .guard text =>
      let number ← guardNumber
      let name := Name.plain (if 0 < number then text ++ "\x7b" ++ toString number ++ "\x7d" else text)
      return (joined (name :: around)).text
    | _ =>
      match qualified head around with
      | none => failure
      | some name =>
        let _ ← symbolType fuel
        return name.text

/-- The counter that makes a static local safe among threads; it is named by its scopes alone. -/
def threadSafety : Nat → Reader String
  | 0 => failure
  | fuel + 1 => do
    expect "TSS"
    let number := (← plainName).toList
    if number = [] ∨ !number.all Char.isDigit then failure
    let around ← scopes fuel
    expect "4HA"
    return (joined around).text

end

def decode? (s : String) : Option String := do
  let chars := s.toList
  let (name, _) ← (symbol (4 * chars.length + 16)).run { rest := chars, names := [], types := [] }
  return name

end FlowGuard.Decorated
