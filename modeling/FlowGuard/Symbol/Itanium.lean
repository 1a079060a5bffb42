import FlowGuard.Symbol.Itanium.Grammar
import FlowGuard.Symbol.Itanium.Printer

/-!
Symbols of the Itanium C++ scheme, reduced to the qualified name they stand for. The symbol is read into its
parts first, and the parts are written after that, since a template parameter may stand in front of the
argument that it denotes.
-/

namespace FlowGuard.Itanium

def decode? (s : String) : Option String :=
  (Encoding.parse? s).bind Encoding.text?

end FlowGuard.Itanium
