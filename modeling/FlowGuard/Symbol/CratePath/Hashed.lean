import FlowGuard.Symbol.CratePath.Spelling

/-!
The older scheme of crate paths: length-prefixed elements between `_ZN` and `E`, of which the last is
usually a hash. Characters that a symbol may not hold are escaped between dollar signs.
-/

namespace FlowGuard.CratePath

/-- Elements up to the closing `E`, and what follows it. An element is a decimal length and as many
characters, which may not end the text. -/
def elements? (s : List Char) : Option (List (List Char) × List Char) :=
  match s with
  | [] => none
  | c :: tail =>
    if c = 'E' then some ([], tail)
    else if c.isDigit then
      let length := decimal (c :: tail.takeWhile Char.isDigit)
      let body := tail.dropWhile Char.isDigit
      if length < body.length then
        (elements? (body.drop length)).map fun (rest, suffix) => (body.take length :: rest, suffix)
      else none
    else none
termination_by s.length
decreasing_by
  have : (tail.dropWhile Char.isDigit).length ≤ tail.length :=
    (List.dropWhile_sublist _).length_le
  simp only [List.length_drop, List.length_cons]
  omega

/-- A hash: an `h` and hexadecimal digits. -/
def isHash : List Char → Bool
  | [] => false
  | c :: rest => c = 'h' && rest.all isHexDigit

def shownChar? (digits : List Char) : Option Char :=
  if digits = [] then none
  else do
    let values ← digits.mapM lowerHexDigit?
    let code := values.foldl (fun n d => 16 * n + d) 0
    if h : code.isValidChar then
      if code < 0x20 ∨ (0x7F ≤ code ∧ code < 0xA0) then none else some (Char.ofNatAux code h)
    else none

def escape? (name : List Char) : Option (List Char) :=
  match String.ofList name with
  | "SP" => some ['@']
  | "BP" => some ['*']
  | "RF" => some ['&']
  | "LT" => some ['<']
  | "GT" => some ['>']
  | "LP" => some ['(']
  | "RP" => some [')']
  | "C" => some [',']
  | _ =>
    match name with
    | 'u' :: digits => (shownChar? digits).map fun c => [c]
    | _ => none

/-- Resolves dots and escapes; from the first escape that has no meaning on, the text is kept. The fuel
is at least the length of the text. -/
def unescape : Nat → List Char → List Char
  | 0, s => s
  | fuel + 1, s =>
    match s with
    | [] => []
    | '.' :: '.' :: rest => ':' :: ':' :: unescape fuel rest
    | '$' :: rest =>
      match splitAtMark? ['$'] rest with
      | none => s
      | some (name, after) =>
        match escape? name with
        | none => s
        | some text => text ++ unescape fuel after
    | c :: rest => c :: unescape fuel rest

def showElement (element : List Char) : List Char :=
  let body := match element with
    | '_' :: '$' :: rest => '$' :: rest
    | e => e
  unescape body.length body

def dropHash (elements : List (List Char)) : List (List Char) :=
  match elements.getLast? with
  | some last => if isHash last then elements.dropLast else elements
  | none => elements

/-- Reads a symbol of the older scheme: the text it stands for and the suffix. -/
def hashed? (s : List Char) : Option (List Char × List Char) := do
  let inner ← dropAnyLead? ["_ZN", "ZN", "__ZN"] s
  if inner.any fun c => 0x80 ≤ c.toNat then none
  let (elements, suffix) ← elements? inner
  return (List.intercalate [':', ':'] ((dropHash elements).map showElement), suffix)

end FlowGuard.CratePath
