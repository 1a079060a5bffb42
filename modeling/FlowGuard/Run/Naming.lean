import FlowGuard.Guard.Entry
import FlowGuard.Host.Basic
import FlowGuard.Symbol.Name
import FlowGuard.Width

/-!
How functions are named in comments.
-/

namespace FlowGuard

/-- The name of the function at an address; without a readable symbol it is the address itself. -/
def Decoders.function (d : Decoders) (symbolAt? : Address → Option String) (w : Width) (a : Address) : String :=
  match symbolAt? a >>= d.shownName? with
  | some name => name
  | none => w.pointerText a

namespace Naming

def function (h : Host) : Width → Address → String :=
  Decoders.own.function h.symbolAt?

/-- The comment that lists the functions of a group: `2fn: foo, bar`. -/
def group (h : Host) (w : Width) (entries : List Entry) : String :=
  toString entries.length ++ "fn: "
    ++ ", ".intercalate (entries.map fun e => function h w e.function)

end Naming

end FlowGuard
