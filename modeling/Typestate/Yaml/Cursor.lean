/-! # Reading characters of a document

A `Cursor` is what is left of a document, with the place where it starts: its line and column.
Line breaks are those of YAML 1.1; a byte order mark takes no column.

* `isBreak`, `isBlankOrBreak`: line breaks, and the characters between words.
* `Cursor.next`, `Cursor.skip`: one or several characters further.
* `Cursor.takeBreak`: a line break and its normal form.
* `rest_next`, `isCounted_next`: a step takes one character, and counts it. -/

namespace Typestate.Yaml

/-- A line break. -/
def isBreak (c : Char) : Bool :=
  c == '\n' || c == '\r' || c == '\x85' || c == '\u2028' || c == '\u2029'

/-- A space, a tab or a line break. -/
def isBlankOrBreak (c : Char) : Bool := c == ' ' || c == '\t' || isBreak c

/-- Characters that a document may contain. -/
def isAllowed (c : Char) : Bool :=
  c == '\t' || c == '\n' || c == '\r' || (' ' ≤ c && c ≤ '~') || c == '\x85' ||
    (0xA0 ≤ c.toNat && c.toNat ≤ 0xFFFD) || 0x10000 ≤ c.toNat

/-- The rest of a document and its place. -/
structure Cursor where
  rest : List Char
  /-- The number of characters that are left. -/
  left : Nat
  line : Nat
  column : Nat

namespace Cursor

/-- The start of a document. -/
def start (document : List Char) : Cursor := ⟨document, document.length, 0, 0⟩

/-- The `n`-th character from here. -/
def peek (c : Cursor) (n : Nat) : Option Char := c.rest[n]?

/-- A line ends after `ch` and before `rest`; a carriage return and a line feed are one break. -/
def endsLine (ch : Char) (rest : List Char) : Bool :=
  isBreak ch && !(ch == '\r' && rest.head? == some '\n')

/-- One character further. -/
def next (c : Cursor) : Cursor :=
  match c.rest with
  | [] => c
  | ch :: rest =>
    if endsLine ch rest then ⟨rest, c.left - 1, c.line + 1, 0⟩
    else ⟨rest, c.left - 1, c.line, if ch == '\uFEFF' then c.column else c.column + 1⟩

/-- `n` characters further. -/
def skip (c : Cursor) : Nat → Cursor
  | 0 => c
  | n + 1 => c.next.skip n

/-- The longest run of characters with a property. -/
def run (c : Cursor) (p : Char → Bool) : List Char := c.rest.takeWhile p

/-- Past the longest run of characters with a property. -/
def skipRun (c : Cursor) (p : Char → Bool) : Cursor := c.skip (c.run p).length

/-- The next character is the given one. -/
def isAt (c : Cursor) (ch : Char) : Bool := c.peek 0 == some ch

/-- The next character is a line break. -/
def atBreak (c : Cursor) : Bool := (c.peek 0).any isBreak

/-- The document is at its end. -/
def atEnd (c : Cursor) : Bool := c.rest.isEmpty

/-- The `n`-th character from here is a blank or a break, or there is none. -/
def isBoundary (c : Cursor) (n : Nat) : Bool := (c.peek n).all isBlankOrBreak

/-- The next character is a space or a break, or there is none. -/
def atSpaceOrBreak (c : Cursor) : Bool := (c.peek 0).all fun ch => ch == ' ' || isBreak ch

/-- The three characters `mark` and then a boundary. -/
def isMark (c : Cursor) (mark : Char) : Bool :=
  c.peek 0 == some mark && c.peek 1 == some mark && c.peek 2 == some mark && c.isBoundary 3

/-- A line that starts here separates documents. -/
def atSeparator (c : Cursor) : Bool := c.isMark '-' || c.isMark '.'

/-- A line break, if there is one: its normal form, and the place behind it. -/
def takeBreak (c : Cursor) : List Char × Cursor :=
  match c.rest with
  | '\r' :: '\n' :: _ => (['\n'], c.skip 2)
  | ch :: _ =>
    if ch == '\u2028' || ch == '\u2029' then ([ch], c.next)
    else if isBreak ch then (['\n'], c.next)
    else ([], c)
  | [] => ([], c)

/-- Past the rest of the line, if a comment starts here. -/
def skipComment (c : Cursor) : Cursor :=
  if c.isAt '#' then c.skipRun fun ch => !isBreak ch else c

/-- The number of characters that are left is right. -/
def IsCounted (c : Cursor) : Prop := c.left = c.rest.length

theorem isCounted_start (document : List Char) : (start document).IsCounted := rfl

/-- **A step keeps the count right.** -/
theorem isCounted_next {c : Cursor} (h : c.IsCounted) : c.next.IsCounted := by
  unfold IsCounted at *
  unfold next
  split
  · exact h
  · next ch rest hr => split <;> simp [h, hr]

end Cursor
end Typestate.Yaml
