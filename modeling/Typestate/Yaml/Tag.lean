import Typestate.Yaml.Stamp

/-! # Tags

A tag says which kind of value a node denotes. A plain scalar without a tag gets the tag that its
text matches, everything else the tag of its form.
A line feed at the end of a text does not count for what it matches.

* `Tag.ofText`: the tag of a plain scalar, by the implicit types of YAML 1.1.
* `Tag.ofName`: the tag that a node names itself. -/

namespace Typestate.Yaml

/-- The kind of value that a node denotes. -/
inductive Tag where
  | null
  | truth
  | whole
  | fraction
  | moment
  | text
  /-- A text with halves of surrogate pairs. -/
  | halved
  /-- The key whose value is merged into its mapping. -/
  | merge
  /-- The key of a default value, an ordinary text as a key. -/
  | defaultKey
  | bytes
  | sequence
  | mapping
  | set
  /-- A sequence of pairs. -/
  | pairs
  | unknown
deriving DecidableEq

namespace Tag

open Numeral

/-! ### Shapes of plain scalars -/

/-- The words for truth values, in one of three spellings. -/
def truthValue? (s : String) : Option Bool :=
  if ["yes", "Yes", "YES", "true", "True", "TRUE", "on", "On", "ON"].contains s then some true
  else if ["no", "No", "NO", "false", "False", "FALSE", "off", "Off", "OFF"].contains s then
    some false
  else none

/-- The text stands for nothing. -/
def isNull (s : String) : Bool := ["", "~", "null", "Null", "NULL"].contains s

/-- The text behind a sign. -/
def unsigned (cs : List Char) : List Char := (splitSign cs).2

/-- Not empty, and every character has the property. -/
def isRunOf (p : Char → Bool) (cs : List Char) : Bool := !cs.isEmpty && cs.all p

/-- A digit, or an underscore between digits. -/
def isSpacedDigit (c : Char) : Bool := isDigit c || c == '_'

/-- A digit of a base, or an underscore. -/
def isSpacedDigitOf (base : Nat) (c : Char) : Bool :=
  c == '_' || (digitValue? c).any fun d => d < base

/-- Digits to base sixty: at most two, and less than sixty. -/
def isSixtieth : List Char → Bool
  | [c] => isDigit c
  | [c, d] => '0' ≤ c && c ≤ '5' && isDigit d
  | _ => false

/-- The parts between colons. -/
def colonParts (cs : List Char) : List (List Char) := cs.splitOn ':'

/-- Digits and underscores of which the first is a digit. -/
def startsWithDigit (cs : List Char) : Bool := cs.head?.any isDigit && cs.all isSpacedDigit

/-- An unsigned integer. -/
def isWholeNumber : List Char → Bool
  | '0' :: 'b' :: digits => isRunOf (isSpacedDigitOf 2) digits
  | '0' :: 'x' :: digits => isRunOf (isSpacedDigitOf 16) digits
  | '0' :: digits => digits.all (isSpacedDigitOf 8)
  | cs => match colonParts cs with
    | first :: rest => startsWithDigit first && rest.all isSixtieth
    | [] => false

/-- An exponent with a sign, or nothing. -/
def isExponent : List Char → Bool
  | [] => true
  | e :: sign :: digits =>
    (e == 'e' || e == 'E') && (sign == '-' || sign == '+') && isRunOf isDigit digits
  | _ => false

/-- What follows the point: digits, and an exponent. -/
def isFraction (cs : List Char) : Bool := isExponent (cs.dropWhile isSpacedDigit)

/-- An unsigned decimal with a point; with colons before the point it is to base sixty and has no
exponent. -/
def isDecimal (cs : List Char) : Bool :=
  let places := (cs.dropWhile (· != '.')).drop 1
  cs.contains '.' && match colonParts (cs.takeWhile (· != '.')) with
    | [first] => startsWithDigit first && isFraction places
    | first :: rest => startsWithDigit first && rest.all isSixtieth && places.all isSpacedDigit
    | [] => false

/-- A floating-point number. -/
def isFloat (cs : List Char) : Bool :=
  match cs with
  | '.' :: rest =>
    ["inf".toList, "Inf".toList, "INF".toList,
        "nan".toList, "NaN".toList, "NAN".toList].contains rest ||
      (rest.head?.any isDigit && isFraction rest)
  | cs =>
    ["inf".toList, "Inf".toList, "INF".toList].any (fun word => unsigned cs == '.' :: word) ||
      isDecimal (unsigned cs)

/-- A date alone has two digits for the month and the day. -/
def isMoment (cs : List Char) : Bool :=
  (Stamp.ofText? cs).any fun s => s.clock.isSome || cs.length == 10

/-- The text without a line feed at its end, unless that is all. -/
def beforeBreak (cs : List Char) : List Char :=
  if cs.getLast? == some '\n' && cs.length != 1 then cs.dropLast else cs

/-- **The tag of a plain scalar.** The shapes do not overlap. -/
def ofText (text : String) : Tag :=
  let cs := beforeBreak text.toList
  let s := String.ofList cs
  if (truthValue? s).isSome then .truth
  else if isFloat cs then .fraction
  else if isWholeNumber (unsigned cs) then .whole
  else if s == "<<" then .merge
  else if isNull s then .null
  else if isMoment cs then .moment
  else if s == "=" then .defaultKey
  else if ["!", "&", "*"].contains s then .unknown
  else .text

/-- What the names of the standard tags start with. -/
def standard : String := "tag:yaml.org,2002:"

/-- The tag with a name. -/
def ofName (name : String) : Tag :=
  let names : List (String × Tag) :=
    [("null", .null), ("bool", .truth), ("int", .whole), ("float", .fraction),
      ("timestamp", .moment), ("str", .text), ("binary", .bytes), ("merge", .merge),
      ("value", .defaultKey), ("seq", .sequence), ("map", .mapping), ("set", .set),
      ("omap", .pairs), ("pairs", .pairs)]
  ((names.find? fun entry => standard ++ entry.1 == name).map Prod.snd).getD .unknown

end Tag
end Typestate.Yaml
