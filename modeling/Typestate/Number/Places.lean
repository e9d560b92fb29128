import Typestate.Number.Shortest

/-! # Decimals of a given precision

A double is written with a number of places behind the point, with a number of places and an
exponent, or with a number of significant digits. The last digit is rounded; a tie goes to the even
one.

* `Layout`: which of these it is. `Layout.general` writes an exponent only where it is below `-4` or
  too large for the digits, and leaves out zeros at the end.
* `Double.placed`: the text of a double without its sign. A point with nothing behind it is kept if
  wanted, and zeros at the end then too. -/

namespace Typestate

/-- How a double is written. -/
inductive Layout where
  | fixed
  | scientific
  | general
deriving DecidableEq

namespace Double

/-- Numerator and denominator of `m · 2 ^ e`. -/
def ratioOf (m : Nat) (e : Int) : Nat × Nat :=
  if 0 ≤ e then (m * Nat.pow 2 e.toNat, 1) else (m, Nat.pow 2 (-e).toNat)

/-- The digits of a number, filled up with zeros in front. -/
def digitsOf (width n : Nat) : List Char :=
  let digits := Nat.toDigits 10 n
  List.replicate (width - digits.length) '0' ++ digits

theorem le_length_digitsOf (width n : Nat) : width ≤ (digitsOf width n).length := by
  simp only [digitsOf, List.length_append, List.length_replicate]
  omega

/-- The number of places, or of significant digits, behind which a double has only zeros. -/
def exactPlaces : Nat := 1100

/-- The zeros behind the digits that can be others. -/
def zerosBehind (count : Nat) : List Char := List.replicate (count - exactPlaces) '0'

/-- A number of significant digits of `num / den`, and the power of ten of the first one. -/
def significant (num den count : Nat) : List Char × Int :=
  if num = 0 then (List.replicate count '0', 0)
  else
    let exact := min count exactPlaces
    let order := decimalOrder num den
    let scaled := scaleDecimal num den (order - exact + 1)
    let digits := digitsOf exact (roundDiv scaled.1 scaled.2)
    if exact < digits.length then (digits.dropLast ++ zerosBehind count, order + 1)
    else (digits ++ zerosBehind count, order)

/-- Digits before and behind a point, which is left out if nothing follows it. -/
def pointed (keepsPoint : Bool) (whole places : List Char) : List Char :=
  whole ++ (if places.isEmpty && !keepsPoint then [] else '.' :: places)

/-- With as many places. -/
def fixedText (keepsPoint : Bool) (num den places : Nat) : List Char :=
  let exact := min places exactPlaces
  let digits := digitsOf (exact + 1) (roundDiv (num * Nat.pow 10 exact) den)
  let whole := digits.length - exact
  pointed keepsPoint (digits.take whole) (digits.drop whole ++ zerosBehind places)

/-- One digit, places, and an exponent. -/
def exponentForm (keepsPoint : Bool) (digits : List Char) (order : Int) : List Char :=
  pointed keepsPoint (digits.take 1) (digits.drop 1) ++ 'e' :: exponentText order

/-- Digits with a point where it belongs. -/
def positionalForm (keepsPoint : Bool) (digits : List Char) (order : Int) : List Char :=
  if order < 0 then
    pointed keepsPoint ['0'] (List.replicate (-order - 1).toNat '0' ++ digits)
  else
    let whole := order.toNat + 1
    pointed keepsPoint (digits.take whole ++ List.replicate (whole - digits.length) '0')
      (digits.drop whole)

/-- With as many significant digits, at least one. -/
def generalText (keepsZeros : Bool) (num den count : Nat) : List Char :=
  let count := max 1 count
  let found := significant num den (if keepsZeros then count else min count exactPlaces)
  let digits := if keepsZeros then found.1 else found.1.take 1 ++ (trimZeros (found.1.drop 1)).1
  if found.2 < -4 ∨ (count : Int) ≤ found.2 then exponentForm keepsZeros digits found.2
  else positionalForm keepsZeros digits found.2

/-- The text of a double without its sign. -/
def placed (layout : Layout) (isLong : Bool) (precision : Nat) : Double → List Char
  | .finite _ m e =>
    let ratio := ratioOf m e
    match layout with
    | .fixed => fixedText isLong ratio.1 ratio.2 precision
    | .scientific =>
      let found := significant ratio.1 ratio.2 (precision + 1)
      exponentForm isLong found.1 found.2
    | .general => generalText isLong ratio.1 ratio.2 precision
  | .infinite _ => "inf".toList
  | .nan => "nan".toList

/-- The double is written with a minus sign. -/
def isNegative : Double → Bool
  | .finite s _ _ => s
  | .infinite s => s
  | .nan => false

end Double
end Typestate
