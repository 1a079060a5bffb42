/-!
Names with characters beyond ASCII. The ASCII characters of such a name stand apart; the others are
inserted among them in rising order, and each is given by the distance from the one before, as a number
with digits in base 36 whose weights adapt to the distances met so far.
-/

namespace FlowGuard.CratePath.Punycode

/-- A letter in lower case or a digit, as a digit in base 36. -/
def digit? (c : Char) : Option Nat :=
  if c.isLower then some (c.toNat - 'a'.toNat)
  else if c.isDigit then some (c.toNat - '0'.toNat + 26)
  else none

/-- A digit below the threshold of its place is the last of its number. -/
def threshold (place bias : Nat) : Nat :=
  min (max (place - bias) 1) 26

/-- Reads a number: its value and what stands behind it. -/
def distance? (bias : Nat) : Nat → Nat → Nat → List Char → Option (Nat × List Char)
  | _, _, _, [] => none
  | place, weight, value, c :: rest => do
    let digit ← digit? c
    let value := value + digit * weight
    if digit < threshold place bias then some (value, rest)
    else distance? bias (place + 36) (weight * (36 - threshold place bias)) value rest

/-- The bias that a distance leads to, once it has been damped. -/
def adapt (distance : Nat) : Nat :=
  if 455 < distance then 36 + adapt (distance / 35) else 36 * distance / (distance + 38)
termination_by distance
decreasing_by exact Nat.div_lt_self (by omega) (by omega)

/-- Inserts the characters that `code` gives into `text`. The next one goes to `index` or behind, and
is at least `next`; the fuel is at least the length of the code. -/
def insert? : Nat → List Char → Nat → Nat → Nat → Nat → List Char → Option (List Char)
  | 0, _, _, _, _, _, _ => none
  | fuel + 1, text, index, next, bias, damping, code => do
    let (distance, rest) ← distance? bias 36 1 0 code
    let length := text.length + 1
    let next := next + (index + distance) / length
    let index := (index + distance) % length
    if h : next.isValidChar then
      let text := text.insertIdx index (Char.ofNatAux next h)
      if rest = [] then some text
      else
        let damped := distance / damping
        insert? fuel text (index + 1) next (adapt (damped + damped / length)) 2 rest
    else none

def maxLength : Nat := 128

/-- The name made of its ASCII characters and the code of the others. -/
def decode? (plain code : List Char) : Option (List Char) :=
  (insert? code.length plain 0 0x80 72 700 code).filter (·.length ≤ maxLength)

end FlowGuard.CratePath.Punycode
