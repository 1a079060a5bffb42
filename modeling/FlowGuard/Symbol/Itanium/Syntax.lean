/-!
The parts of a symbol of the Itanium C++ scheme. A symbol encodes a function, a datum or an object made by
the compiler; each has a name, and names are built from scopes, template arguments and types. Whatever a
back reference can stand for is a `Component`, whether it names a scope, a template or a type.
-/

namespace FlowGuard.Itanium

abbrev Ident := List Char

/-- The qualifiers of a type or of the object of a member function. -/
structure Qualifiers where
  isRestrict : Bool
  isVolatile : Bool
  isConst : Bool
  deriving DecidableEq, Repr

def Qualifiers.none : Qualifiers := ⟨false, false, false⟩

/-- Whether a member function wants an object that lasts or one about to go. -/
inductive RefQualifier where
  | lvalue
  | rvalue
  deriving DecidableEq, Repr

def RefQualifier.text : RefQualifier → String
  | lvalue => "&"
  | rvalue => "&&"

/-- The parts of the standard library that have letters of their own. -/
inductive WellKnown where
  | std
  | allocator
  | basicString
  | string
  | istream
  | ostream
  | iostream
  deriving DecidableEq, Repr

namespace WellKnown

def text : WellKnown → String
  | std => "std"
  | allocator => "std::allocator"
  | basicString => "std::basic_string"
  | string => "std::string"
  | istream => "std::basic_istream<char, std::char_traits<char> >"
  | ostream => "std::ostream"
  | iostream => "std::basic_iostream<char, std::char_traits<char> >"

/-- The plain name of the class; the namespace is no class. -/
def className? : WellKnown → Option String
  | std => none
  | allocator => some "allocator"
  | basicString => some "basic_string"
  | string => some "string"
  | istream => some "basic_istream"
  | ostream => some "ostream"
  | iostream => some "basic_iostream"

end WellKnown

mutual

/-- Anything that a back reference can stand for, and the types that none can. -/
inductive Component where
  | builtin (text : String)
  | vendorBuiltin (name : Ident)
  /-- A whole number whose width depends on a template parameter. -/
  | bitInt (sign : String) (width : Expression)
  | wellKnown (part : WellKnown)
  | unscoped (inStd : Bool) (name : Unqualified)
  | plain (name : Unqualified)
  | member (scope : Component) (name : Unqualified)
  | dataMember (scope : Component) (name : Ident)
  | applied (base : Component) (args : TemplateArgs)
  | param (index : Nat)
  | decltype (of : Expression)
  | named (keyword : String) (name : Name)
  | qualified (q : Qualifiers) (type : Component)
  | pointer (type : Component)
  | lvalue (type : Component)
  | rvalue (type : Component)
  | complex (type : Component)
  | imaginary (type : Component)
  | vendor (name : Ident) (args : Option TemplateArgs) (type : Component)
  | expansion (type : Component)
  | function (q : Qualifiers) (ref : Option RefQualifier) (throws : Throws) (types : List Component)
  | array (bound : Option Expression) (element : Component)
  | vector (bound : Expression) (element : Component)
  | memberPointer (owner : Component) (type : Component)

/-- What a function says about exceptions: nothing, that it throws none, or when it throws none. -/
inductive Throws where
  | unknown
  | nothing
  | nothingIf (condition : Expression)

/-- A name without its scope, and the tags it carries. -/
inductive Unqualified where
  | mk (label : Label) (tags : List Ident)

/-- A name without scope and tags. A constructor may be inherited from the class it names. -/
inductive Label where
  | operator (op : Operator)
  | constructor (inherited : Option Component)
  | destructor
  | source (name : Ident)
  | closure (params : List Component) (number : Nat)
  | unnamed (number : Nat)

/-- An operator by its letters, a conversion, a literal suffix, or one of a vendor. -/
inductive Operator where
  | symbol (text : String) (arity : Nat)
  | conversion (type : Component)
  | literal (name : Ident)
  | vendor (arity : Nat) (name : Ident)

/-- A name with its scope. A member may take its object as a parameter of its own. A function has local
names, and names in the default arguments of its parameters. -/
inductive Name where
  | nested (takesObject : Bool) (q : Qualifiers) (ref : Option RefQualifier) (path : Component)
  | unscoped (inStd : Bool) (name : Unqualified)
  | template (base : Component) (args : TemplateArgs)
  | inside (outer : Encoding) (name : Option Name)
  | inDefault (outer : Encoding) (name : Name)

/-- What a symbol stands for. The types of a function start with its result if it is a template. -/
inductive Encoding where
  | function (name : Name) (types : List Component)
  | data (name : Name)
  | ofType (lead : String) (type : Component) (close : String)
  | ofName (lead : String) (name : Name)
  | thunk (offsets : List String) (target : Encoding)
  | alias (lead : String) (target : Encoding)
  | construction (type : Component) (base : Component)
  | resource (path : String)

/-- Template arguments; the place they were read at tells one list from another. -/
inductive TemplateArgs where
  | mk (place : Nat) (args : List TemplateArg)

/-- One template argument; a pack holds any number of them. -/
inductive TemplateArg where
  | type (type : Component)
  | expression (e : Expression)
  | primary (p : Primary)
  | pack (args : List TemplateArg)

/-- A literal, or an object by its symbol, with the suffixes of a copy. -/
inductive Primary where
  | literal (type : Component) (value : List Char)
  | external (target : Encoding) (suffixes : List String)

inductive SimpleName where
  | mk (name : Ident) (args : Option TemplateArgs)

inductive LastName where
  | simple (name : SimpleName)
  | operator (op : Operator) (args : Option TemplateArgs)
  | destructorOf (type : Component)
  | destructor (name : SimpleName)

/-- An expression among template arguments, in a bound, or behind `decltype`. -/
inductive Expression where
  | number (value : Nat)
  | step (mark : String) (operand : Expression)
  | unary (op : Operator) (operand : Expression)
  | binary (op : Operator) (left right : Expression)
  | ternary (op : Operator) (first second third : Expression)
  | call (callee : Expression) (args : List Expression)
  | convert (type : Component) (operand : Expression)
  | construct (type : Component) (args : List Expression)
  | braced (type : Option Component) (args : List Expression)
  /-- A part of an object by its type and its place. -/
  | part (type : Component) (object : Expression) (offset : String)
  | create (keyword : String) (args : List Expression) (type : Component) (initial : Option (List Expression))
  | delete (keyword : String) (operand : Expression)
  | castBy (keyword : String) (type : Component) (operand : Expression)
  | queryType (keyword : String) (type : Component)
  | query (keyword : String) (operand : Expression)
  | param (index : Nat)
  /-- A parameter of the function around, or its object. -/
  | functionParam (index : Option Nat)
  | member (object : Expression) (name : Name)
  | memberThrough (object : Expression) (name : Name)
  | memberAt (object pointer : Expression)
  | packSize (of : Expression)
  | packSizeOf (args : List TemplateArg)
  | expansion (of : Expression)
  | throwing (operand : Expression)
  | rethrow
  /-- A name that is looked up when the template is used, perhaps from the outermost scope on. -/
  | unresolved (isGlobal : Bool) (type : Option Component) (scopes : List SimpleName) (last : LastName)
  | primary (p : Primary)

end

namespace Component

def isVoid : Component → Bool
  | builtin text => text = "void"
  | _ => false

end Component

/-- What constructors and destructors repeat: the plain name of their class. -/
inductive Leaf where
  | source (name : Ident)
  | wellKnown (part : WellKnown)
  | closure (params : List Component) (number : Nat)

/-- Operators, constructors, destructors and types without a name are no names of classes. -/
def Unqualified.leaf? : Unqualified → Option Leaf
  | .mk (.source name) _ => some (.source name)
  | .mk (.closure params number) _ => some (.closure params number)
  | .mk _ _ => none

mutual

def Component.leaf? : Component → Option Leaf
  | .wellKnown part => part.className?.map fun _ => .wellKnown part
  | .unscoped _ name => name.leaf?
  | .plain name => name.leaf?
  | .member scope name => name.leaf?.or scope.leaf?
  | .dataMember _ name => some (.source name)
  | .applied base _ => base.leaf?
  | .named _ name => name.leaf?
  | _ => none

def Name.leaf? : Name → Option Leaf
  | .nested _ _ _ path => path.leaf?
  | .unscoped _ name => name.leaf?
  | .template base _ => base.leaf?
  | .inside _ (some name) => name.leaf?
  | .inside _ none => none
  | .inDefault _ name => name.leaf?

end

def Name.args? : Name → Option TemplateArgs
  | .nested _ _ _ (.applied _ args) => some args
  | .template _ args => some args
  | .inside _ (some name) => name.args?
  | .inDefault _ name => name.args?
  | _ => none

/-- Whether a function gives no result of a type of its own choice: constructors and destructors give
none, and conversions give what they are named for. -/
def Unqualified.lacksResult : Unqualified → Bool
  | .mk (.constructor _) _ => true
  | .mk .destructor _ => true
  | .mk (.operator (.conversion _)) _ => true
  | _ => false

def Component.lacksResult : Component → Bool
  | .unscoped _ name => name.lacksResult
  | .plain name => name.lacksResult
  | .member _ name => name.lacksResult
  | .applied base _ => base.lacksResult
  | _ => false

def Name.lacksResult : Name → Bool
  | .nested _ _ _ path => path.lacksResult
  | .unscoped _ name => name.lacksResult
  | _ => false

def Name.takesObject : Name → Bool
  | .nested takesObject _ _ _ => takesObject
  | _ => false

def Component.args? : Component → Option TemplateArgs
  | .applied _ args => some args
  | .named _ name => name.args?
  | _ => none

end FlowGuard.Itanium
