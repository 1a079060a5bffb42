/-!
How the types of decorated symbols are spelled. A declaration is written around the thing it declares, so a
type has a text in front and a text behind; marks and qualifiers go to the end of the text in front, and
functions and arrays need parentheses around them.
-/

namespace FlowGuard.Decorated

/-- What a type forbids and warns of, and whether it lies in a far segment, which is not written. -/
structure Qualifiers where
  isConst : Bool
  isVolatile : Bool
  isFar : Bool
  deriving DecidableEq, Repr

namespace Qualifiers

def none : Qualifiers := ⟨false, false, false⟩

def const : Qualifiers := ⟨true, false, false⟩

def volatile : Qualifiers := ⟨false, true, false⟩

def both : Qualifiers := ⟨true, true, false⟩

def far (q : Qualifiers) : Qualifiers := { q with isFar := true }

/-- The words of the qualifiers, in the order in which they are written. -/
def words (q : Qualifiers) : List String :=
  (if q.isConst then ["const"] else []) ++ (if q.isVolatile then ["volatile"] else [])

/-- What tells these qualifiers from others. -/
def key (q : Qualifiers) : String :=
  "|".intercalate (q.words ++ if q.isFar then ["far"] else [])

end Qualifiers

/-- A name as it is written, and a key that tells it from names that are written alike. -/
structure Name where
  text : String
  key : String
  deriving DecidableEq, Repr

def Name.plain (text : String) : Name := ⟨text, text⟩

/-- A word that follows such a character needs a space in front. -/
def needsSpace (c : Char) : Bool :=
  c.isAlpha || c = '*' || c = '&' || c = '>'

/-- A text with a word behind it. A digit or an underscore at the end of the text calls for no space. -/
def followed (text word : String) : String :=
  match text.toList.getLast? with
  | some c => if needsSpace c then text ++ " " ++ word else text ++ word
  | none => word

/-- A text with qualifiers behind it. -/
def qualify (text : String) (q : Qualifiers) : String :=
  q.words.foldl followed text

/-- Whether a mark has to be kept together with what it marks by parentheses. A pack without types is no
type of its own. -/
inductive Shape where
  | plain
  | function (convention : String)
  | array
  | empty
  deriving DecidableEq, Repr

/-- The two texts of a type, and a key that tells it from types that are written alike. -/
structure Spelling where
  before : String
  after : String
  shape : Shape
  key : String
  deriving DecidableEq, Repr

namespace Spelling

def named (name : Name) (q : Qualifiers) : Spelling :=
  ⟨qualify name.text q, "", .plain, name.key ++ "|" ++ q.key⟩

def phrase (text : String) (q : Qualifiers) : Spelling :=
  named (.plain text) q

def empty : Spelling := ⟨"", "", .empty, ""⟩

/-- A pointer or reference, written by its mark. -/
def marked (mark : String) (q : Qualifiers) (target : Spelling) : Spelling :=
  let key := mark ++ "|" ++ q.key ++ "(" ++ target.key ++ ")"
  match target.shape with
  | .plain | .empty => ⟨qualify (followed target.before mark) q, target.after, .plain, key⟩
  | .array => ⟨qualify (followed target.before "(" ++ mark) q, ")" ++ target.after, .plain, key⟩
  | .function convention =>
    ⟨qualify (followed (followed target.before ("(" ++ convention)) mark) q, ")" ++ target.after,
      .plain, key⟩

/-- A reference to a value that is about to go. Nothing is written behind its mark. -/
def passing (q : Qualifiers) (target : Spelling) : Spelling :=
  { marked "&&" q target with after := "" }

/-- An array of some length whose elements have qualifiers. -/
def array (length : Int) (q : Qualifiers) (element : Spelling) : Spelling :=
  ⟨qualify element.before q, "[" ++ toString length ++ "]" ++ element.after, .array,
    toString length ++ "[" ++ q.key ++ "](" ++ element.key ++ ")"⟩

/-- The whole text of a type that declares nothing. -/
def text (s : Spelling) : String :=
  match s.shape with
  | .function convention => followed s.before convention ++ " " ++ s.after
  | _ => s.before ++ s.after

def list (types : List Spelling) : String :=
  ",".intercalate (types.map text)

/-- A function with a convention, a result, parameters, and the qualifiers of the object it works on. -/
def function (convention : String) (result : Spelling) (params : List Spelling) (object : Qualifiers) :
    Spelling :=
  let words := String.join (object.words.map (" " ++ ·))
  ⟨result.before, "(" ++ list params ++ ")" ++ words ++ result.after, .function convention,
    convention ++ "|" ++ object.key ++ "(" ++ ",".intercalate ((result :: params).map key) ++ ")"⟩

/-- A template with arguments; two closing brackets are kept apart. -/
def bracketed (template : Name) (types : List Spelling) : Name :=
  let inner := list types
  ⟨template.text ++ "<" ++ inner ++ (if inner.endsWith ">" then " >" else ">"),
    template.key ++ "<" ++ ",".intercalate (types.map key) ++ ">"⟩

end Spelling

end FlowGuard.Decorated
