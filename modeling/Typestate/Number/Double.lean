/-! # Binary floating-point numbers

A `Double` is a number `± mantissa · 2 ^ exponent` with at most 53 bits of mantissa, an infinity,
or the one that is not a number. Every number has one form: the mantissa has exactly 53 bits, or
the exponent is the least one.

* `ofRatio`: the double nearest to a ratio; a tie goes to the even mantissa, and what is too large
  is infinite. All other operations are this one after exact arithmetic.
* `ofDecimal`: the double nearest to a decimal.
* `toInt?`: the integer that a double equals. -/

namespace Typestate

/-- A double-precision number. -/
inductive Double where
  | finite (negative : Bool) (mantissa : Nat) (exponent : Int)
  | infinite (negative : Bool)
  | nan
deriving DecidableEq, Inhabited

namespace Double

/-- The exponent of the numbers next to zero. -/
def leastExponent : Int := -1074

/-- The exponent of the largest numbers. -/
def greatestExponent : Int := 971

/-- The integer nearest to `num / den`; a tie goes to the even one. -/
def roundDiv (num den : Nat) : Nat :=
  let quotient := num / den
  let rest := num % den
  if 2 * rest < den then quotient
  else if den < 2 * rest then quotient + 1
  else if quotient % 2 = 0 then quotient else quotient + 1

/-- Numerator and denominator of `num / (den · 2 ^ e)`. -/
def scaleBinary (num den : Nat) (e : Int) : Nat × Nat :=
  if 0 ≤ e then (num, den * Nat.pow 2 e.toNat) else (num * Nat.pow 2 (-e).toNat, den)

/-- The `k` with `2 ^ k ≤ num / den < 2 ^ (k + 1)`. -/
def binaryOrder (num den : Nat) : Int :=
  let guess : Int := (Nat.log2 num : Int) - (Nat.log2 den : Int)
  let scaled := scaleBinary num den guess
  if scaled.2 ≤ scaled.1 then guess else guess - 1

/-- **The double nearest to `num / den`.** -/
def ofRatio (negative : Bool) (num den : Nat) : Double :=
  if num = 0 then .finite negative 0 leastExponent
  else
    let e := max leastExponent (binaryOrder num den - 52)
    let scaled := scaleBinary num den e
    let m := roundDiv scaled.1 scaled.2
    let m' := if m = Nat.pow 2 53 then Nat.pow 2 52 else m
    let e' := if m = Nat.pow 2 53 then e + 1 else e
    if greatestExponent < e' then .infinite negative else .finite negative m' e'

/-- The double nearest to `digits · 10 ^ e`. Decimals far beyond the range are not computed. -/
def ofDecimal (negative : Bool) (digits : Nat) (e : Int) : Double :=
  let order : Int := (Nat.toDigits 10 digits).length + e
  if digits = 0 ∨ order < -400 then .finite negative 0 leastExponent
  else if 400 < order then .infinite negative
  else if 0 ≤ e then ofRatio negative (digits * Nat.pow 10 e.toNat) 1
  else ofRatio negative digits (Nat.pow 10 (-e).toNat)

/-- The double nearest to an integer. -/
def ofInt (i : Int) : Double := ofRatio (i < 0) i.natAbs 1

/-- The double nearest to `m · 2 ^ e`. -/
def ofScaled (negative : Bool) (m : Nat) (e : Int) : Double :=
  if 0 ≤ e then ofRatio negative (m * Nat.pow 2 e.toNat) 1
  else ofRatio negative m (Nat.pow 2 (-e).toNat)

/-- The number with its sign changed. -/
def neg : Double → Double
  | .finite s m e => .finite (!s) m e
  | .infinite s => .infinite (!s)
  | .nan => .nan

/-- The exact product, rounded. -/
def mul : Double → Double → Double
  | .finite s m e, .finite t n f => ofScaled (s != t) (m * n) (e + f)
  | .finite s m _, .infinite t => if m = 0 then .nan else .infinite (s != t)
  | .infinite s, .finite t n _ => if n = 0 then .nan else .infinite (s != t)
  | .infinite s, .infinite t => .infinite (s != t)
  | .nan, _ => .nan
  | _, .nan => .nan

/-- The signed mantissa over a smaller exponent. -/
def signedMantissa (negative : Bool) (m : Nat) (e least : Int) : Int :=
  let shifted : Int := (m * Nat.pow 2 (e - least).toNat : Nat)
  if negative then -shifted else shifted

/-- The exact sum, rounded. -/
def add : Double → Double → Double
  | .finite s m e, .finite t n f =>
    let least := min e f
    let sum := signedMantissa s m e least + signedMantissa t n f least
    if sum = 0 then .finite (s && t) 0 leastExponent else ofScaled (sum < 0) sum.natAbs least
  | .finite .., .infinite t => .infinite t
  | .infinite s, .finite .. => .infinite s
  | .infinite s, .infinite t => if s = t then .infinite s else .nan
  | .nan, _ => .nan
  | _, .nan => .nan

/-- The integer that the number equals. -/
def toInt? : Double → Option Int
  | .finite s m e =>
    let sign (n : Nat) : Int := if s then -(n : Int) else n
    if 0 ≤ e then some (sign (m * Nat.pow 2 e.toNat))
    else if m % Nat.pow 2 (-e).toNat = 0 then some (sign (m / Nat.pow 2 (-e).toNat)) else none
  | _ => none

/-- The number is zero, of either sign. -/
def isZero : Double → Bool
  | .finite _ m _ => m = 0
  | _ => false

/-- **Rounding is exact on integers.** -/
theorem roundDiv_one (n : Nat) : roundDiv n 1 = n := by simp [roundDiv, Nat.mod_one]

theorem neg_neg (x : Double) : x.neg.neg = x := by cases x <;> simp [neg]

end Double
end Typestate
