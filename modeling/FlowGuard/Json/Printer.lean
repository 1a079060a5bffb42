import FlowGuard.Json.Basic

/-!
Writing JSON text: `compact` without blanks, `pretty` with one member or item a line, indented by two
spaces a level. Empty arrays and objects take no line of their own.
-/

namespace FlowGuard.Json

def separated (mark : List Char) : List (List Char) → List Char
  | [] => []
  | [part] => part
  | part :: rest => part ++ mark ++ separated mark rest

def quoted (literal : List Char) : List Char :=
  '"' :: literal ++ ['"']

def truth (b : Bool) : List Char :=
  if b then ['t', 'r', 'u', 'e'] else ['f', 'a', 'l', 's', 'e']

mutual

/-- The text without blanks. -/
def compact : Json → List Char
  | null => ['n', 'u', 'l', 'l']
  | bool b => truth b
  | number literal => literal
  | string literal => quoted literal
  | array items => '[' :: separated [','] (compactItems items) ++ [']']
  | object members => '\x7b' :: separated [','] (compactMembers members) ++ ['\x7d']

def compactItems : List Json → List (List Char)
  | [] => []
  | v :: rest => compact v :: compactItems rest

def compactMembers : List (List Char × Json) → List (List Char)
  | [] => []
  | (key, v) :: rest => (quoted key ++ ':' :: compact v) :: compactMembers rest

end

def newline (level : Nat) : List Char :=
  '\n' :: List.replicate (2 * level) ' '

mutual

def prettyAt (level : Nat) : Json → List Char
  | null => ['n', 'u', 'l', 'l']
  | bool b => truth b
  | number literal => literal
  | string literal => quoted literal
  | array [] => ['[', ']']
  | array (v :: rest) =>
    '[' :: newline (level + 1)
      ++ separated (',' :: newline (level + 1)) (prettyItems (level + 1) (v :: rest))
      ++ newline level ++ [']']
  | object [] => ['\x7b', '\x7d']
  | object (m :: rest) =>
    '\x7b' :: newline (level + 1)
      ++ separated (',' :: newline (level + 1)) (prettyMembers (level + 1) (m :: rest))
      ++ newline level ++ ['\x7d']

def prettyItems (level : Nat) : List Json → List (List Char)
  | [] => []
  | v :: rest => prettyAt level v :: prettyItems level rest

def prettyMembers (level : Nat) : List (List Char × Json) → List (List Char)
  | [] => []
  | (key, v) :: rest => (quoted key ++ ':' :: ' ' :: prettyAt level v) :: prettyMembers level rest

end

def pretty (v : Json) : String :=
  String.ofList (prettyAt 0 v)

def write (v : Json) : String :=
  String.ofList v.compact

end FlowGuard.Json
