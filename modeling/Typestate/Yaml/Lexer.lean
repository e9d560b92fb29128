import Typestate.Yaml.Scalar
import Typestate.Yaml.Property
import Typestate.Yaml.Excerpt

/-! # From characters to tokens

A key of a block mapping is only recognised at the colon behind it. So the lexer remembers, for
each depth of flow collections, the place where a key may have started; at a colon the key token
is put in there, behind the tokens that were before it.

* `KeyStart`: such a place. It is given up on the next line and after 1024 characters; one that
  stands where only a key can stand must not be given up.
* `Lexer`: what is left of the document, the indentation and the tokens found, last one first.
* `Lexer.step`: one more token. A document that is cut off breaks the step that comes to its end.
* `tokens`: all tokens of a document. -/

namespace Typestate.Yaml

/-- A place where a key may start. -/
structure KeyStart where
  /-- The number of tokens before it. -/
  tokens : Nat
  isRequired : Bool
  /-- The number of characters from here on. -/
  left : Nat
  line : Nat
  column : Nat

/-- The state of the lexer. -/
structure Lexer where
  cursor : Cursor
  /-- Why the document cannot be read further than its text. -/
  cut : Option Fault
  /-- The number of flow collections that are open. -/
  depth : Nat
  indent : Int
  /-- The indentations of the block collections around the innermost one. -/
  outer : List Int
  mayStartKey : Bool
  /-- The places where a key may start, by the number of open flow collections. -/
  keyStarts : List (Nat × KeyStart)
  /-- The tokens found, last one first. -/
  found : List Token
  /-- Their number. -/
  count : Nat

namespace Lexer

/-- The state at the start of a document; a byte order mark does not count. -/
def start (document : Excerpt) : Lexer :=
  let c := Cursor.start document.text
  ⟨if c.isAt '\uFEFF' then c.next else c, document.cut, 0, -1, [], true, [], [], 0⟩

variable (l : Lexer)

/-- A flow collection is open. -/
def inFlow : Bool := 0 < l.depth

/-- A token more. -/
def push (t : Token) : Lexer := { l with found := t :: l.found, count := l.count + 1 }

/-- Past `n` characters. -/
def forward (n : Nat) : Lexer := { l with cursor := l.cursor.skip n }

/-- A token put in behind the first `n` tokens. -/
def insertAt (n : Nat) (t : Token) : Lexer :=
  let later := l.count - n
  { l with found := l.found.take later ++ t :: l.found.drop later, count := l.count + 1 }

/-! ### Indentation and keys -/

/-- Closes the block collections that are indented more than a column. -/
def unwindFrom (column : Int) : List Int → Lexer → Lexer
  | [], l => l
  | outermost :: rest, l =>
    if l.indent ≤ column then l
    else unwindFrom column rest ({ l with indent := outermost, outer := rest }.push .blockEnd)

/-- Closes the block collections that are indented more than a column; flow collections have no
indentation. -/
def unwind (column : Int) : Lexer := if l.inFlow then l else unwindFrom column l.outer l

/-- Whether a collection at a column is deeper than the innermost one. -/
def isDeeper (column : Nat) : Bool := l.indent < column

/-- Opens a block collection at a column. -/
def openAt (column : Nat) : Lexer := { l with indent := column, outer := l.indent :: l.outer }

/-- A key start is too far back. -/
def isStale (k : KeyStart) : Bool := k.line != l.cursor.line || 1024 < k.left - l.cursor.left

/-- Gives up the key starts that are too far back. -/
def dropStale : Except Fault Lexer :=
  if l.keyStarts.any fun e => l.isStale e.2 && e.2.isRequired then .error .malformed
  else .ok { l with keyStarts := l.keyStarts.filter fun e => !l.isStale e.2 }

/-- Gives up the key start at the current depth. -/
def dropKeyStart : Except Fault Lexer :=
  match l.keyStarts.lookup l.depth with
  | some k =>
    if k.isRequired then .error .malformed
    else .ok { l with keyStarts := l.keyStarts.filter fun e => e.1 != l.depth }
  | none => .ok l

/-- Remembers that a key may start here. -/
def saveKeyStart : Except Fault Lexer :=
  if l.mayStartKey then do
    let dropped ← l.dropKeyStart
    let c := l.cursor
    .ok { dropped with
      keyStarts := (l.depth, ⟨l.count, !l.inFlow && l.indent == c.column, c.left, c.line, c.column⟩)
        :: dropped.keyStarts }
  else .ok l

/-- Sets whether a key may start here. -/
def allowKey (allowed : Bool) : Lexer := { l with mayStartKey := allowed }

/-! ### White space -/

/-- Past spaces, comments and line breaks; after a break in block context a key may start. -/
def skipBlank : Nat → Lexer → Lexer
  | 0, l => l
  | fuel + 1, l =>
    let c := (l.cursor.skipRun (· == ' ')).skipComment
    if c.atBreak then
      skipBlank fuel { l with cursor := c.takeBreak.2, mayStartKey := l.mayStartKey || !l.inFlow }
    else { l with cursor := c }

/-! ### Tokens -/

/-- The end of the document. -/
def streamEnd : Except Fault Lexer := do
  let l ← (l.unwind (-1)).dropKeyStart
  .ok ((l.allowKey false).push .streamEnd)

/-- A directive. -/
def directive : Except Fault Lexer := do
  let l ← (l.unwind (-1)).dropKeyStart
  let found ← Property.directive l.cursor
  .ok ({ l.allowKey false with cursor := found.2 }.push (.directive found.1))

/-- A line of three hyphens or three dots. -/
def separator (t : Token) : Except Fault Lexer := do
  let l ← (l.unwind (-1)).dropKeyStart
  .ok (((l.allowKey false).forward 3).push t)

/-- The start of a flow collection. -/
def flowStart (t : Token) : Except Fault Lexer := do
  let l ← l.saveKeyStart
  .ok (({ l with depth := l.depth + 1, mayStartKey := true }.forward 1).push t)

/-- The end of a flow collection. -/
def flowEnd (t : Token) : Except Fault Lexer := do
  let l ← l.dropKeyStart
  .ok (({ l with depth := l.depth - 1, mayStartKey := false }.forward 1).push t)

/-- A comma. -/
def comma : Except Fault Lexer := do
  let l ← (l.allowKey true).dropKeyStart
  .ok ((l.forward 1).push .comma)

/-- Opens a block collection at the current column, if it is deeper than the one around it. -/
def openHere (t : Token) : Lexer :=
  if l.isDeeper l.cursor.column then (l.openAt l.cursor.column).push t else l

/-- A hyphen. -/
def entry : Except Fault Lexer := do
  if !l.inFlow && !l.mayStartKey then .error .malformed
  let opened := if l.inFlow then l else l.openHere .blockSequence
  let l ← (opened.allowKey true).dropKeyStart
  .ok ((l.forward 1).push .entry)

/-- A question mark. -/
def key : Except Fault Lexer := do
  if !l.inFlow && !l.mayStartKey then .error .malformed
  let opened := if l.inFlow then l else l.openHere .blockMapping
  let l ← (opened.allowKey !l.inFlow).dropKeyStart
  .ok ((l.forward 1).push .key)

/-- A colon behind a key that has been started. -/
def valueOfKey (k : KeyStart) : Lexer :=
  let l := { l with keyStarts := l.keyStarts.filter fun e => e.1 != l.depth }
  let keyed := l.insertAt k.tokens .key
  let opened :=
    if !l.inFlow && l.isDeeper k.column then (keyed.openAt k.column).insertAt k.tokens .blockMapping
    else keyed
  ((opened.allowKey false).forward 1).push .value

/-- A colon without a key on the same line. -/
def valueAlone : Except Fault Lexer := do
  if !l.inFlow && !l.mayStartKey then .error .malformed
  let opened := if l.inFlow then l else l.openHere .blockMapping
  let l ← (opened.allowKey !l.inFlow).dropKeyStart
  .ok ((l.forward 1).push .value)

/-- A colon. -/
def value : Except Fault Lexer :=
  match l.keyStarts.lookup l.depth with
  | some k => .ok (l.valueOfKey k)
  | none => l.valueAlone

/-- A unit that a key may start with, and after which no key may start. -/
def keyPart {α : Type} (scan : Cursor → Except Fault (α × Cursor)) (token : α → Token) :
    Except Fault Lexer := do
  let l ← l.saveKeyStart
  let found ← scan l.cursor
  .ok ({ l.allowKey false with cursor := found.2 }.push (token found.1))

/-- A block scalar. -/
def blockScalar (isFolded : Bool) : Except Fault Lexer := do
  let l ← (l.allowKey true).dropKeyStart
  let found ← Scalar.block isFolded l.indent l.cursor
  .ok ({ l with cursor := found.2 }.push (.scalar found.1 .marked))

/-- A plain scalar; after a line break behind it a key may start. -/
def plainScalar : Except Fault Lexer := do
  let l ← l.saveKeyStart
  let found := Scalar.plain l.inFlow l.indent l.cursor
  .ok ({ l with cursor := found.2.1, mayStartKey := found.2.2 }.push (.scalar found.1 .plain))

/-- A plain scalar starts with this character. -/
def startsPlain (ch : Char) : Bool :=
  !(isBlankOrBreak ch || "-?:,[]\x7b\x7d#&*!|>'\"%@\x60".toList.contains ch) ||
    (!l.cursor.isBoundary 1 && (ch == '-' || (!l.inFlow && (ch == '?' || ch == ':'))))

/-- The token that starts with a character. -/
def tokenAt (ch : Char) : Except Fault Lexer :=
  let c := l.cursor
  let standsAlone := l.inFlow || c.isBoundary 1
  if ch == '%' && c.column == 0 then l.directive
  else if c.column == 0 && c.isMark '-' then l.separator .documentStart
  else if c.column == 0 && c.isMark '.' then l.separator .documentEnd
  else if ch == '[' then l.flowStart .flowSequence
  else if ch == '\x7b' then l.flowStart .flowMapping
  else if ch == ']' then l.flowEnd .flowSequenceEnd
  else if ch == '\x7d' then l.flowEnd .flowMappingEnd
  else if ch == ',' then l.comma
  else if ch == '-' && c.isBoundary 1 then l.entry
  else if ch == '?' && standsAlone then l.key
  else if ch == ':' && standsAlone then l.value
  else if ch == '*' then l.keyPart Property.anchorName .alias
  else if ch == '&' then l.keyPart Property.anchorName .anchor
  else if ch == '!' then l.keyPart Property.tag .tag
  else if ch == '|' && !l.inFlow then l.blockScalar false
  else if ch == '>' && !l.inFlow then l.blockScalar true
  else if ch == '\'' then l.keyPart (Scalar.quoted false) fun text => .scalar text .marked
  else if ch == '"' then
    l.keyPart (Scalar.quoted true) (.scalar · (Scalar.doubleStyle l.cursor.rest))
  else if l.startsPlain ch then l.plainScalar
  else .error .malformed

/-- The state, unless the document is cut off here. -/
def unlessCut : Except Fault Lexer :=
  match l.cut with
  | some fault => if l.cursor.atEnd then .error fault else .ok l
  | none => .ok l

/-- One more token; the last one is the end of the document. -/
def step : Except Fault Lexer := do
  let skipped ← (skipBlank (l.cursor.left + 1) l).unlessCut
  let l ← skipped.dropStale
  let l := l.unwind l.cursor.column
  match l.cursor.peek 0 with
  | none => l.streamEnd
  | some ch => (← l.tokenAt ch).unlessCut

/-- The fault of the document, where a step has one: a scalar without an end ends where the document
is cut off. -/
def faultOf (fault : Fault) : Fault := if fault = .ended then l.cut.getD .malformed else fault

/-- The tokens up to the first one that may start a key, last one first, and then the fault: a
reader of tokens has to know whether there is a key. -/
def brokenOff (fault : Fault) : List Token :=
  let waiting := (l.keyStarts.filter fun e => !l.isStale e.2).map fun e => e.2.tokens
  let known := waiting.foldl min l.count
  .broken fault :: l.found.drop (l.count - known)

/-- The tokens from a state on, last one first. -/
def run : Nat → Lexer → List Token
  | 0, l => .broken .malformed :: l.found
  | fuel + 1, l =>
    match l.step with
    | .error fault => l.brokenOff (l.faultOf fault)
    | .ok l =>
      match l.found with
      | .streamEnd :: _ => l.found
      | _ => run fuel l

end Lexer

/-- The tokens of a document. -/
def tokens (document : Excerpt) : List Token :=
  ((Lexer.start document).run (document.text.length + 2)).reverse

end Typestate.Yaml
