/-! # Numerals

Reading digit strings.

* `digitValue?`: the value of an ASCII digit or letter, as a digit.
* `ofDigits?`: the number that a non-empty list of digits denotes in a base.
* `splitSign`: a text without the sign in front of it.
* `mostDigits`: the number of digits that a decimal numeral may have. -/

namespace Typestate.Numeral

/-- The character is one of the ten ASCII digits. -/
def isDigit (c : Char) : Bool := '0' ≤ c && c ≤ '9'

/-- The value of a digit; letters, of either case, count from ten. -/
def digitValue? (c : Char) : Option Nat :=
  if isDigit c then some (c.toNat - '0'.toNat)
  else if 'a' ≤ c && c ≤ 'z' then some (c.toNat - 'a'.toNat + 10)
  else if 'A' ≤ c && c ≤ 'Z' then some (c.toNat - 'A'.toNat + 10)
  else none

/-- The number written by `acc` and then the digits. -/
def readDigits (base acc : Nat) : List Char → Option Nat
  | [] => some acc
  | c :: rest => do
    let d ← digitValue? c
    if d < base then readDigits base (acc * base + d) rest else none

/-- The number that a non-empty digit string denotes. -/
def ofDigits? (base : Nat) : List Char → Option Nat
  | [] => none
  | cs => readDigits base 0 cs

/-- The number that ASCII digits denote; other characters count as zero. -/
def ofDigitsD (cs : List Char) : Nat := (ofDigits? 10 cs).getD 0

/-- The number of digits that a decimal numeral may have. -/
def mostDigits : Nat := 4300

/-- Whether a text has a minus sign in front, and the characters behind its sign. -/
def splitSign : List Char → Bool × List Char
  | '-' :: rest => (true, rest)
  | '+' :: rest => (false, rest)
  | cs => (false, cs)

theorem ofDigits?_nil (base : Nat) : ofDigits? base [] = none := rfl

end Typestate.Numeral
