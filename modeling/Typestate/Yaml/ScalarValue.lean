import Typestate.Yaml.Tag
import Typestate.Yaml.Token
import Typestate.Number.Written
import Typestate.Text.Base64
import Typestate.Text.LetterCase

/-! # The values of scalars

What a text denotes under a tag. A plain scalar has the form of its tag; under a tag that a document
names itself, any text may stand, and may denote nothing.

* `wholeValue`, `fractionValue`: numbers. Underscores do not count, and a colon stands between the
  digits to base sixty.
* `momentValue`, `truthValue`, `bytesValue`: dates and times, truth values, bytes.
* `scalarValue`: the value of a text under a tag. -/

namespace Typestate.Yaml

open Numeral

/-! ### Numbers -/

/-- The whole number that a text denotes in a base. -/
def wholePart (base : Nat) (cs : List Char) : Except Fault Int :=
  match whole base cs with
  | .ok n => .ok n
  | .error .shape => .error (.refused (.numeral base (String.ofList cs)))
  | .error (.length digits) => .error (.refused (.longNumeral digits))

/-- The number whose digits to base sixty are the given ones. -/
def ofSixtieths (parts : List Int) : Int := parts.foldl (fun n part => n * 60 + part) 0

/-- The integer that a numeral behind its sign denotes. -/
def unsignedValue (cs : List Char) : Except Fault Int :=
  match cs with
  | [] => .error (.noPosition .character)
  | ['0'] => .ok 0
  | '0' :: 'b' :: digits => wholePart 2 digits
  | '0' :: 'x' :: digits => wholePart 16 digits
  | '0' :: _ => wholePart 8 cs
  | cs => ofSixtieths <$> (Tag.colonParts cs).mapM (wholePart 10)

/-- The characters of a number, underscores left out. -/
def numberChars (text : String) : List Char := text.toList.filter (· != '_')

/-- The integer that a text denotes. -/
def wholeValue (text : String) : Except Fault Int :=
  match numberChars text with
  | [] => .error (.noPosition .character)
  | cs =>
    let parts := splitSign cs
    (fun n : Int => if parts.1 then -n else n) <$> unsignedValue parts.2

/-- The double that a text denotes. -/
def fractionPart (cs : List Char) : Except Fault Double :=
  match double? cs with
  | some x => .ok x
  | none => .error (.refused (.fraction (String.ofList cs)))

/-- The sum of parts, the first of them weighed with the given power of sixty and every other one
with the next power. -/
def sumOfSixtieths (sum : Double) (weight : Int) : List Double → Except Fault Double
  | [] => .ok sum
  | part :: rest =>
    match Double.ofInt weight with
    | .infinite _ => .error (.beyond .double)
    | factor => sumOfSixtieths (sum.add (part.mul factor)) (weight * 60) rest

/-- The double that a numeral in small letters and behind its sign denotes. -/
def unsignedFraction (cs : List Char) : Except Fault Double :=
  if cs = ".inf".toList then .ok (.infinite false)
  else if cs = ".nan".toList then .ok .nan
  else match Tag.colonParts cs with
    | [_] => fractionPart cs
    | parts => do sumOfSixtieths (Double.ofInt 0) 1 (← parts.mapM fractionPart).reverse

/-- The double that a text denotes. -/
def fractionValue (text : String) : Except Fault Double :=
  match (Text.lower (String.ofList (numberChars text))).toList with
  | [] => .error (.noPosition .character)
  | cs =>
    let parts := splitSign cs
    (fun x : Double => if parts.1 then x.neg else x) <$> unsignedFraction parts.2

/-! ### Other scalars -/

/-- What a stamp denotes. -/
def stampValue (s : Stamp) : Except CalendarFault Data :=
  match s.clock with
  | none => s.date.map .date
  | some clock => (s.moment clock).map .moment

/-- The date or time that a text denotes. -/
def momentValue (text : String) : Except Fault Data :=
  match Stamp.ofText? (Tag.beforeBreak text.toList) with
  | some s => (stampValue s).mapError fun fault => .refused (.calendar fault)
  | none => .error (.lacking "NoneType" "groupdict")

/-- The truth value that a text denotes, in any case. -/
def truthValue (text : String) : Except Fault Bool :=
  let word := Text.lower text
  match Tag.truthValue? word with
  | some b => .ok b
  | none => .error (.missing (.entry word))

/-- The bytes that a text denotes. -/
def bytesValue (text : String) : Except Fault (List UInt8) :=
  if text.toList.all fun c => c.toNat < 0x80 then
    match Text.Base64.decode text.toList with
    | some content => .ok content
    | none => .error .malformed
  else .error .malformed

/-- **The value of a text under a tag.** -/
def scalarValue (tag : Tag) (text : String) : Except Fault Data :=
  match tag with
  | .null => .ok .null
  | .text => .ok (.text text)
  | .halved => .ok (.halved text)
  | .truth => .bool <$> truthValue text
  | .whole => .int <$> wholeValue text
  | .fraction => .float <$> fractionValue text
  | .moment => momentValue text
  | .bytes => .bytes <$> bytesValue text
  | _ => .error .malformed

/-- A text that is tagged as such denotes itself. -/
theorem scalarValue_text (text : String) : scalarValue .text text = .ok (.text text) := rfl

end Typestate.Yaml
