import Typestate.Text.PrintableTable

/-! # Quoted text

How a text is shown inside a message.

* `quoted`: the text between single quotes, or between double quotes if it holds single quotes
  and no double ones. The backslash, the quote in use and everything unprintable are escaped.
* `quotedBytes`: bytes in the same way, as far as they are printable ASCII characters.
* `quotedList`: the quoted texts between square brackets.
* `commaList`: the texts as they are, separated by commas. -/

namespace Typestate.Text

/-- The character is shown as it is. -/
def isPrintable (c : Char) : Bool := !memSpans unprintableSpans c.toNat

/-- The last `width` hexadecimal digits of `n`, in lower case. -/
def hexDigits : Nat → Nat → List Char
  | 0, _ => []
  | width + 1, n => hexDigits width (n / 16) ++ [Nat.digitChar (n % 16)]

theorem length_hexDigits (width n : Nat) : (hexDigits width n).length = width := by
  induction width generalizing n with
  | zero => rfl
  | succ w ih => simp [hexDigits, ih]

/-- A character of a text between `quote` marks. -/
def escapeChar (quote c : Char) : List Char :=
  if c = quote || c = '\\' then ['\\', c]
  else if c = '\t' then ['\\', 't']
  else if c = '\n' then ['\\', 'n']
  else if c = '\r' then ['\\', 'r']
  else if isPrintable c then [c]
  else if c.toNat < 0x100 then '\\' :: 'x' :: hexDigits 2 c.toNat
  else if c.toNat < 0x10000 then '\\' :: 'u' :: hexDigits 4 c.toNat
  else '\\' :: 'U' :: hexDigits 8 c.toNat

/-- The quote mark that needs fewer escapes, single ones preferred. -/
def quoteMark (cs : List Char) : Char :=
  if cs.contains '\'' && !cs.contains '"' then '"' else '\''

/-- The text between quote marks. -/
def quoted (s : String) : String :=
  let quote := quoteMark s.toList
  String.ofList (quote :: s.toList.flatMap (escapeChar quote) ++ [quote])

/-- The characters with everything that is not ASCII escaped too. -/
def asciiOnly (cs : List Char) : List Char :=
  cs.flatMap fun c =>
    if c.toNat < 0x80 then [c]
    else if c.toNat < 0x100 then '\\' :: 'x' :: hexDigits 2 c.toNat
    else if c.toNat < 0x10000 then '\\' :: 'u' :: hexDigits 4 c.toNat
    else '\\' :: 'U' :: hexDigits 8 c.toNat

/-- Bytes between quote marks, after the letter that marks them; those that are no printable ASCII
character are escaped. -/
def quotedBytes (content : List UInt8) : String :=
  let cs := content.map fun b => Char.ofNat b.toNat
  let quote := quoteMark cs
  String.ofList ('b' :: quote :: asciiOnly (cs.flatMap (escapeChar quote)) ++ [quote])

/-- The texts separated by a comma and a space. -/
def commaList (items : List String) : String := String.intercalate ", " items

/-- The quoted texts between square brackets. -/
def quotedList (items : List String) : String := "[" ++ commaList (items.map quoted) ++ "]"

end Typestate.Text
