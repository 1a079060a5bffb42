import FlowGuard.Symbol.CratePath.Hashed
import FlowGuard.Symbol.CratePath.Tree

/-!
Symbols that spell the path of an item in a crate. The older scheme is a list of length-prefixed
elements between `_ZN` and `E`, whose last element is usually a hash; the newer one spells a path as a
tree behind `_R`. Either may be followed by a suffix that starts with a dot.
-/

namespace FlowGuard.CratePath

/-- Without the renaming that link-time optimisation leaves at the end. -/
def dropRenaming (s : List Char) : List Char :=
  match splitAtMark? ".llvm.".toList s with
  | some (front, rest) =>
    if rest.all fun c => c.isDigit || ('A' ≤ c && c ≤ 'F') || c = '@' then front else s
  | none => s

/-- Whether a text may follow a symbol: nothing, or a dot and visible characters. -/
def isSuffix : List Char → Bool
  | [] => true
  | c :: rest => c = '.' && rest.all fun d => '!' ≤ d && d ≤ '~'

/-- The path a symbol stands for, without its hash, followed by its suffix. -/
def decode? (symbol : String) : Option String := do
  let s := dropRenaming symbol.toList
  let (text, suffix) ← hashed? s <|> Tree.decode? s
  if isSuffix suffix then some (String.ofList (text ++ suffix)) else none

end FlowGuard.CratePath
