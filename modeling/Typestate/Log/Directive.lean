import Typestate.Failure
import Typestate.Number.Places

/-! # Directives

A directive in a template says how an argument is shown: `%`, flags, a width, a precision and a
letter.

* `Directive`: a directive.
* `Directive.converted`: the text of an argument, apart from the width: texts and literals, whole
  numbers to a base, doubles, and single characters.
* `Directive.shown`: the text of an argument, filled up to the width. -/

namespace Typestate

/-- How an argument is shown. -/
structure Directive where
  /-- Filled up at the end. -/
  isLeft : Bool := false
  /-- A plus sign for what is not negative. -/
  hasPlus : Bool := false
  /-- A space in the place of a plus sign. -/
  hasSpace : Bool := false
  /-- With the mark of the base, or with a point at the end. -/
  isMarked : Bool := false
  /-- Numbers are filled up with zeros. -/
  hasZeros : Bool := false
  width : Nat := 0
  precision : Option Nat := none
  letter : Char := 's'
  /-- The place of the letter in the template. -/
  position : Nat := 0

/-- A text in parts, so that zeros can be put in before the digits. -/
structure Shown where
  /-- The sign of a number; a text has none, and takes none. -/
  sign : Option (List Char) := none
  mark : List Char := []
  body : List Char

namespace Directive

variable (f : Directive)

/-- The sign of a number. -/
def signOf (isNegative : Bool) : List Char :=
  if isNegative then ['-'] else if f.hasPlus then ['+'] else if f.hasSpace then [' '] else []

/-- A text, cut off at the precision. -/
def cut (s : String) : Shown :=
  { body := match f.precision with
      | some count => s.toList.take count
      | none => s.toList }

/-! ### Numbers -/

/-- The whole number of an argument; fractions are cut off. -/
def wholeOf (d : Data) : Except Failure Int :=
  match d with
  | .int i => .ok i
  | .bool b => .ok (if b then 1 else 0)
  | .float (.finite negative m e) =>
    let ratio := Double.ratioOf m e
    let n : Int := (ratio.1 / ratio.2 : Nat)
    .ok (if negative then -n else n)
  | .float (.infinite _) => .error (.beyond .infinity)
  | .float .nan => .error (.refused .wholeOfNan)
  | d => .error (.mismatch (.notNumber f.letter d.kindName))

/-- The whole number of an argument that must not have a fraction. -/
def exactOf (d : Data) : Except Failure Int :=
  match d with
  | .int i => .ok i
  | .bool b => .ok (if b then 1 else 0)
  | d => .error (.mismatch (.notWhole f.letter d.kindName))

/-- The double of an argument. -/
def doubleOf (d : Data) : Except Failure Double :=
  match d with
  | .float x => .ok x
  | .bool b => .ok (Double.ofInt (if b then 1 else 0))
  | .int i =>
    match Double.ofInt i with
    | .infinite _ => .error (.beyond .double)
    | x => .ok x
  | d => .error (.mismatch (.notReal d.kindName))

/-- The number of characters that there is room for. -/
def mostColumns : Nat := 67108864

/-- The largest precision of a whole number. -/
def mostPlaces : Nat := 2147483644

/-- A whole number to a base; the precision is the least number of digits. -/
def wholeShown (base : Nat) (mark : String) (i : Int) : Except Failure Shown :=
  let digits := Nat.toDigits base i.natAbs
  let least := f.precision.getD 0
  if mostPlaces < least then .error (.beyond .precision)
  else if mostColumns < least then .error .exhausted
  else .ok
    { sign := some (f.signOf (i < 0))
      mark := if f.isMarked then mark.toList else []
      body := List.replicate (least - digits.length) '0' ++ digits }

/-- A double. -/
def doubleShown (layout : Layout) (d : Data) : Except Failure Shown := do
  let x ← doubleOf d
  if mostColumns < f.precision.getD 6 ∧ (layout ≠ .general ∨ f.isMarked) then .error .exhausted
  .ok
    { sign := some (f.signOf x.isNegative)
      body := x.placed layout f.isMarked (f.precision.getD 6) }

/-- The text in capitals. -/
def capital (s : Shown) : Shown :=
  { s with mark := s.mark.map Char.toUpper, body := s.body.map Char.toUpper }

/-! ### Characters -/

/-- The character of an argument: a text of one character, or a code point. -/
def character (d : Data) : Except Failure Char :=
  let ofCode (i : Int) : Except Failure Char :=
    if 0 ≤ i ∧ i < 0x110000 then .ok (Char.ofNat i.toNat) else .error (.beyond .codePoint)
  match d with
  | .text s => match s.toList with
    | [c] => .ok c
    | _ => .error (.mismatch .notCharacter)
  | .int i => ofCode i
  | .bool b => ofCode (if b then 1 else 0)
  | _ => .error (.mismatch .notCharacter)

/-! ### Layout -/

/-- The text of an argument, apart from the width. -/
def converted (d : Data) : Except Failure Shown :=
  match f.letter with
  | 's' => .ok (f.cut d.display)
  | 'r' => .ok (f.cut d.literal)
  | 'a' => .ok (f.cut (String.ofList (Text.asciiOnly d.literal.toList)))
  | 'd' => f.wholeOf d >>= f.wholeShown 10 ""
  | 'i' => f.wholeOf d >>= f.wholeShown 10 ""
  | 'u' => f.wholeOf d >>= f.wholeShown 10 ""
  | 'o' => f.exactOf d >>= f.wholeShown 8 "0o"
  | 'x' => f.exactOf d >>= f.wholeShown 16 "0x"
  | 'X' => capital <$> (f.exactOf d >>= f.wholeShown 16 "0x")
  | 'e' => f.doubleShown .scientific d
  | 'E' => capital <$> f.doubleShown .scientific d
  | 'f' => f.doubleShown .fixed d
  | 'F' => capital <$> f.doubleShown .fixed d
  | 'g' => f.doubleShown .general d
  | 'G' => capital <$> f.doubleShown .general d
  | 'c' => (fun c => { body := [c] }) <$> character d
  | other => .error (.refused (.unknownDirective other f.position))

/-- A text filled up to the width. -/
def filled (s : Shown) : List Char :=
  let sign := s.sign.getD []
  let room (c : Char) : List Char :=
    List.replicate (f.width - (sign.length + s.mark.length + s.body.length)) c
  if f.isLeft then sign ++ s.mark ++ s.body ++ room ' '
  else if f.hasZeros && s.sign.isSome then sign ++ s.mark ++ room '0' ++ s.body
  else room ' ' ++ sign ++ s.mark ++ s.body

/-- **The text of an argument.** -/
def shown (d : Data) : Except Failure (List Char) := do
  let s ← f.converted d
  if mostColumns < f.width then .error .exhausted else .ok (f.filled s)

/-- A text is at least as long as the width. -/
theorem width_le_length_filled (s : Shown) : f.width ≤ (f.filled s).length := by
  unfold filled
  dsimp only
  split
  · simp only [List.length_append, List.length_replicate]; omega
  · split <;> simp only [List.length_append, List.length_replicate] <;> omega

end Directive
end Typestate
