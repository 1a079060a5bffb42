import FlowGuard.Symbol.Decorated.Spelling

/-!
What single letters stand for in decorated symbols: operators, types, qualifiers, calling conventions and
the access of members.
-/

namespace FlowGuard.Decorated

/-- Operators and generated functions by one letter. -/
def specials : List (Char × String) :=
  [('2', "operator new"), ('3', "operator delete"), ('4', "operator="), ('5', "operator>>"),
    ('6', "operator<<"), ('7', "operator!"), ('8', "operator=="), ('9', "operator!="),
    ('A', "operator[]"), ('C', "operator->"), ('D', "operator*"), ('E', "operator++"),
    ('F', "operator--"), ('G', "operator-"), ('H', "operator+"), ('I', "operator&"),
    ('J', "operator->*"), ('K', "operator/"), ('L', "operator%"), ('M', "operator<"),
    ('N', "operator<="), ('O', "operator>"), ('P', "operator>="), ('Q', "operator,"),
    ('R', "operator()"), ('S', "operator~"), ('T', "operator^"), ('U', "operator|"),
    ('V', "operator&&"), ('W', "operator||"), ('X', "operator*="), ('Y', "operator+="),
    ('Z', "operator-=")]

def underscoreSpecials : List (Char × String) :=
  [('0', "operator/="), ('1', "operator%="), ('2', "operator>>="), ('3', "operator<<="),
    ('4', "operator&="), ('5', "operator|="), ('6', "operator^="), ('7', "`vftable'"),
    ('8', "`vbtable'"), ('9', "`vcall'"), ('A', "`typeof'"), ('C', "`string'"),
    ('D', "`vbase destructor'"), ('E', "`vector deleting destructor'"),
    ('F', "`default constructor closure'"), ('G', "`scalar deleting destructor'"),
    ('H', "`vector constructor iterator'"), ('I', "`vector destructor iterator'"),
    ('J', "`vector vbase constructor iterator'"), ('K', "`virtual displacement map'"),
    ('L', "`eh vector constructor iterator'"), ('M', "`eh vector destructor iterator'"),
    ('N', "`eh vector vbase constructor iterator'"), ('O', "`copy constructor closure'"),
    ('S', "`local vftable'"), ('T', "`local vftable constructor closure'"), ('U', "operator new[]"),
    ('V', "operator delete[]"), ('X', "`placement delete closure'"),
    ('Y', "`placement delete[] closure'")]

def doubleUnderscoreSpecials : List (Char × String) :=
  [('A', "`managed vector constructor iterator'"), ('B', "`managed vector destructor iterator'"),
    ('C', "`eh vector copy constructor iterator'"), ('D', "`eh vector vbase copy constructor iterator'"),
    ('E', "`dynamic initializer'"), ('F', "`dynamic atexit destructor'"),
    ('G', "`vector copy constructor iterator'"), ('H', "`vector vbase copy constructor iterator'"),
    ('I', "`managed vector vbase copy constructor iterator'"), ('L', " co_await"), ('M', "operator<=>")]

def primitives : List (Char × String) :=
  [('X', "void"), ('D', "char"), ('C', "signed char"), ('E', "unsigned char"), ('F', "short"),
    ('G', "unsigned short"), ('H', "int"), ('I', "unsigned int"), ('J', "long"),
    ('K', "unsigned long"), ('M', "float"), ('N', "double"), ('O', "long double")]

def underscorePrimitives : List (Char × String) :=
  [('N', "bool"), ('J', "int64_t"), ('K', "uint64_t"), ('L', "int128_t"), ('M', "uint128_t"),
    ('W', "wchar_t"), ('Q', "char8_t"), ('S', "char16_t"), ('U', "char32_t")]

def namedKinds : List (Char × String) :=
  [('T', "union "), ('U', "struct "), ('V', "class ")]

/-- The letters of qualifiers without those of members; the second four are those of far segments. -/
def placeLetters : List (Char × Qualifiers) :=
  [('A', .none), ('B', .const), ('C', .volatile), ('D', .both), ('E', .far .none), ('F', .far .const),
    ('G', .far .volatile), ('H', .far .both)]

def objectLetters : List (Char × Qualifiers) :=
  [('A', .none), ('B', .const), ('C', .volatile), ('D', .both), ('Q', .none), ('R', .const),
    ('S', .volatile), ('T', .both)]

def targetLetters : List (Char × Qualifiers) :=
  objectLetters ++ placeLetters

def elementLetters : List (Char × Qualifiers) :=
  [('A', .none), ('B', .const), ('C', .both), ('D', .both)]

def conventions : List (Char × String) :=
  [('A', "__cdecl"), ('B', "__cdecl"), ('C', "__pascal"), ('E', "__thiscall"), ('G', "__stdcall"),
    ('I', "__fastcall")]

/-- The access letters of member functions, and whether the function has no object. -/
def memberKinds : List (Char × Bool) :=
  [('A', false), ('B', false), ('C', true), ('D', true), ('E', false), ('F', false), ('I', false),
    ('J', false), ('K', true), ('L', true), ('M', false), ('N', false), ('Q', false), ('R', false),
    ('S', true), ('T', true), ('U', false), ('V', false), ('Z', false)]

/-- The access letters of member functions that first move the object by a number. -/
def adjustingKinds : List Char :=
  ['G', 'H', 'O', 'P', 'W', 'X']

end FlowGuard.Decorated
