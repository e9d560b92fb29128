import Typestate.Number.Double
import Typestate.Text.Digit

/-! # Numbers as they are written

Reading a whole number or a double from a text that holds nothing else. White space around the
number does not count, and the digits may be those of any script.

* `Numeral.whole`: a whole number in a base, of which the text may have the mark.
* `Numeral.double?`: a decimal with or without a point and an exponent, or the word for an infinity
  or for what is no number. -/

namespace Typestate.Numeral

/-- Why a text is no whole number. -/
inductive Flaw where
  | shape
  /-- A decimal of too many digits. -/
  | length (digits : Nat)

/-- White space around a number. -/
def isPadding (c : Char) : Bool := c == ' ' || ('\t' ≤ c && c ≤ '\r')

/-- The text without white space around it. -/
def unpadded (cs : List Char) : List Char :=
  ((cs.dropWhile isPadding).reverse.dropWhile isPadding).reverse

/-- The letter behind a zero that marks a base. -/
def baseMark? : Nat → Option Char
  | 2 => some 'b'
  | 8 => some 'o'
  | 16 => some 'x'
  | _ => none

/-- The digits behind the mark of their base. -/
def unmarked (base : Nat) : List Char → List Char
  | '0' :: c :: rest => if baseMark? base == some c.toLower then rest else '0' :: c :: rest
  | cs => cs

/-- The unsigned number that digits denote; only a decimal may be too long. -/
def unsignedWhole (base : Nat) (cs : List Char) : Except Flaw Nat :=
  let run := cs.takeWhile isDigit
  if base = 10 ∧ mostDigits < run.length then .error (.length run.length)
  else match ofDigits? base cs with
    | some n => .ok n
    | none => .error .shape

/-- The whole number that a text denotes in a base. -/
def whole (base : Nat) (cs : List Char) : Except Flaw Int :=
  let parts := splitSign (unpadded (Text.plainDigits cs))
  (fun n : Nat => if parts.1 then -(n : Int) else n) <$> unsignedWhole base (unmarked base parts.2)

/-- An exponent behind the digits of a decimal. -/
def exponent? : List Char → Option Int
  | [] => some 0
  | e :: rest =>
    if e.toLower = 'e' then
      let parts := splitSign rest
      (ofDigits? 10 parts.2).map fun n => if parts.1 then -(n : Int) else n
    else none

/-- The words for numbers that have no digits. -/
def wordValue? (word : List Char) : Option Double :=
  if word = "inf".toList ∨ word = "infinity".toList then some (.infinite false)
  else if word = "nan".toList then some .nan
  else none

/-- The double that an unsigned decimal denotes. -/
def decimal? (cs : List Char) : Option Double :=
  let digits := cs.takeWhile isDigit
  let rest := cs.drop digits.length
  let places := match rest with
    | '.' :: behind => behind.takeWhile isDigit
    | _ => []
  let rest := match rest with
    | '.' :: behind => behind.drop places.length
    | rest => rest
  do
    let n ← ofDigits? 10 (digits ++ places)
    let e ← exponent? rest
    some (Double.ofDecimal false n (e - places.length))

/-- The double that a text denotes. -/
def double? (cs : List Char) : Option Double :=
  let parts := splitSign (unpadded (Text.plainDigits cs))
  let found := wordValue? (parts.2.map Char.toLower) <|> decimal? parts.2
  found.map fun x => if parts.1 then x.neg else x

/-- **An ASCII text is read as it stands.** -/
theorem whole_of_ascii {base : Nat} {cs : List Char} (h : cs.all fun c => c.toNat < 0x80) :
    whole base cs = (fun n : Nat => if (splitSign (unpadded cs)).1 then -(n : Int) else n) <$>
      unsignedWhole base (unmarked base (splitSign (unpadded cs)).2) := by
  have : Text.plainDigits cs = cs := by simp only [Text.plainDigits, h, if_true]
  simp only [whole, this]

end Typestate.Numeral
