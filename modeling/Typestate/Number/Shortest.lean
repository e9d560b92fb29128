import Typestate.Number.Double

/-! # The shortest decimal of a double

A double is written with the fewest digits that read back as the same double; of several such
decimals the nearest is taken, and of two equally near ones the even one.

* `shortestDigits`: those digits and the power of ten they count.
* `Double.text`: the written form. The point is positional when the number is at least `0.0001`
  and below `10 ^ 16`; otherwise there is one digit before the point and an exponent of at least
  two digits. A positional integer ends in `.0`. -/

namespace Typestate.Double

/-- Numerator and denominator of `num / (den · 10 ^ e)`. -/
def scaleDecimal (num den : Nat) (e : Int) : Nat × Nat :=
  if 0 ≤ e then (num, den * Nat.pow 10 e.toNat) else (num * Nat.pow 10 (-e).toNat, den)

/-- The `k` with `10 ^ k ≤ num / den < 10 ^ (k + 1)`. -/
def decimalOrder (num den : Nat) : Int :=
  let guess : Int := ((Nat.toDigits 10 num).length : Int) - ((Nat.toDigits 10 den).length : Int)
  let scaled := scaleDecimal num den guess
  if scaled.2 ≤ scaled.1 then guess else guess - 1

/-- The multiple of `10 ^ e` that reads back as `x` and is nearest to `num / den`. -/
def readsBackAt? (x : Double) (num den : Nat) (e : Int) : Option Nat :=
  let scaled := scaleDecimal num den e
  let below := scaled.1 / scaled.2
  let rest := scaled.1 % scaled.2
  let isBelow := ofDecimal false below e == x
  let isAbove := ofDecimal false (below + 1) e == x
  if isBelow && isAbove then
    some
      (if 2 * rest < scaled.2 || (2 * rest == scaled.2 && below % 2 == 0) then below
      else below + 1)
  else if isBelow then some below
  else if isAbove then some (below + 1)
  else none

/-- The first of the given digit counts that has a decimal reading back as `x`. -/
def shortestFrom (x : Double) (num den : Nat) (order : Int) : List Nat → Option (Nat × Int)
  | [] => none
  | count :: rest =>
    let e := order - count + 1
    match readsBackAt? x num den e with
    | some digits => some (digits, e)
    | none => shortestFrom x num den order rest

/-- Digits and exponent of the shortest decimal of the positive double `m · 2 ^ e`. -/
def shortestDigits (m : Nat) (e : Int) : Nat × Int :=
  let num := if 0 ≤ e then m * Nat.pow 2 e.toNat else m
  let den := if 0 ≤ e then 1 else Nat.pow 2 (-e).toNat
  (shortestFrom (.finite false m e) num den (decimalOrder num den) (List.range' 1 17)).getD (m, 0)

/-- The digits without the zeros at the end, and the number of those zeros. -/
def trimZeros (digits : List Char) : List Char × Nat :=
  let zeros := (digits.reverse.takeWhile (· == '0')).length
  (digits.take (digits.length - zeros), zeros)

/-- An exponent of at least two digits, with its sign. -/
def exponentText (e : Int) : List Char :=
  let digits := Nat.toDigits 10 e.natAbs
  (if e < 0 then '-' else '+') :: (if digits.length < 2 then '0' :: digits else digits)

/-- Digits `0.d₁d₂…` times `10 ^ point`. -/
def decimalText (digits : List Char) (point : Int) : List Char :=
  if -4 < point ∧ point ≤ 16 then
    if point ≤ 0 then '0' :: '.' :: List.replicate (-point).toNat '0' ++ digits
    else if digits.length ≤ point.toNat then
      digits ++ List.replicate (point.toNat - digits.length) '0' ++ ['.', '0']
    else digits.take point.toNat ++ '.' :: digits.drop point.toNat
  else
    let fraction := if digits.length ≤ 1 then [] else '.' :: digits.drop 1
    digits.take 1 ++ fraction ++ 'e' :: exponentText (point - 1)

/-- The written form of a double. -/
def text : Double → String
  | .finite s m e =>
    let body :=
      if m = 0 then ['0', '.', '0']
      else
        let shortest := shortestDigits m e
        let digits := trimZeros (Nat.toDigits 10 shortest.1)
        decimalText digits.1 (digits.1.length + digits.2 + shortest.2)
    String.ofList (if s then '-' :: body else body)
  | .infinite s => if s then "-inf" else "inf"
  | .nan => "nan"

end Typestate.Double
