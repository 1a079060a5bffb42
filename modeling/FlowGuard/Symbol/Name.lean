import FlowGuard.Symbol.CratePath
import FlowGuard.Symbol.Decorated
import FlowGuard.Symbol.Itanium

/-!
Names of symbols. A symbol is of one of three flavors or plain; a mangled symbol is reduced to the
qualified name it stands for, without parameters, results and hashes, and a plain one is its own name.
-/

namespace FlowGuard

inductive Flavor where
  | cratePath
  | itanium
  | decorated
  | plain
  deriving DecidableEq, Repr

namespace Flavor

def name : Flavor → String
  | cratePath => "Rust"
  | itanium => "Itanium"
  | decorated => "Msvc"
  | plain => "Unknown"

def isWordChar (c : Char) : Bool :=
  c.isAlphanum || c = '_'

/-- One or two underscores, a `Z`, and a word character. -/
def looksItanium : List Char → Bool
  | '_' :: 'Z' :: c :: _ => isWordChar c
  | '_' :: '_' :: 'Z' :: c :: _ => isWordChar c
  | _ => false

/-- The characters in front of the first `@` that ends a decorated name. -/
def isDecoratedChar (c : Char) : Bool :=
  isWordChar c || c = '@' || c = '$' || c = '?'

/-- A question mark, at least one decorated character, and an `@` behind decorated characters only. -/
def looksDecorated : List Char → Bool
  | '?' :: rest => ((rest.takeWhile isDecoratedChar).drop 1).contains '@'
  | _ => false

end Flavor

/-- The decoders of mangled symbols, one for each spelling. -/
structure Decoders where
  cratePath : String → Option String
  itanium : String → Option String
  decorated : String → Option String

namespace Decoders

/-- The decoders that name the symbols of a host. -/
def own : Decoders where
  cratePath := CratePath.decode?
  itanium := Itanium.decode?
  decorated := Decorated.decode?

variable (d : Decoders)

/-- The flavor of a symbol: crate paths are what their decoder takes, the other two are known by their start. -/
def flavor (symbol : String) : Flavor :=
  if (d.cratePath symbol).isSome then .cratePath
  else if Flavor.looksItanium symbol.toList then .itanium
  else if Flavor.looksDecorated symbol.toList then .decorated
  else .plain

def decodeAs? (f : Flavor) (symbol : String) : Option String :=
  match f with
  | .cratePath => d.cratePath symbol
  | .itanium => d.itanium symbol
  | .decorated => d.decorated symbol
  | .plain => none

def decode? (symbol : String) : Option String :=
  d.decodeAs? (d.flavor symbol) symbol

/-- The name a mangled symbol stands for. An empty name is none. -/
def demangle? (symbol : String) : Option String :=
  (d.decode? symbol).filter (· != "")

/-- The name to show for a symbol: none if it is empty or mangled in a way that cannot be read. -/
def shownName? (symbol : String) : Option String :=
  if symbol = "" then none
  else if d.flavor symbol = .plain then some symbol
  else d.demangle? symbol

end Decoders

def Flavor.of : String → Flavor := Decoders.own.flavor
def Flavor.decode? : Flavor → String → Option String := Decoders.own.decodeAs?
def Symbol.demangle? : String → Option String := Decoders.own.demangle?
def Symbol.shownName? : String → Option String := Decoders.own.shownName?

end FlowGuard
