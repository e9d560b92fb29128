import Typestate.Yaml.Cursor
import Typestate.Yaml.Token
import Typestate.Number.Numeral

/-! # Scalars

The three ways to write a scalar, each a function from the place where it starts to its text and
the place behind it.

* `plain`: without quotes; it may go on over lines that are indented more than its parent.
* `quoted`: between single or double quotes; a line break in it is folded into a space.
* `block`: a literal or folded block; its header says how the end is treated.

All loops carry a number that bounds their steps, which the callers set to the number of
characters left. What a loop has read so far it keeps last character first. -/

namespace Typestate.Yaml.Scalar

/-! ### Plain scalars -/

/-- The end of a plain scalar, as far as it shows in the characters that follow; `inFlow` says that
it stands in a flow collection. -/
def endsPlain (inFlow : Bool) (ch : Char) (following : Option Char) : Bool :=
  isBlankOrBreak ch ||
    (ch == ':' && following.all fun d => isBlankOrBreak d ||
      (inFlow && ",[]\x7b\x7d".toList.contains d)) ||
    (inFlow && ",?[]\x7b\x7d".toList.contains ch)

/-- The characters of a plain scalar on one line and without spaces. -/
def plainRun (inFlow : Bool) : List Char → List Char
  | [] => []
  | ch :: rest => if endsPlain inFlow ch rest.head? then [] else ch :: plainRun inFlow rest

/-- The line breaks between two lines of a plain scalar; nothing if a document separator follows. -/
def plainBreaks : Nat → Cursor → List Char → Option (List Char) × Cursor
  | 0, c, breaks => (some breaks.reverse, c)
  | fuel + 1, c, breaks =>
    if c.isAt ' ' then plainBreaks fuel c.next breaks
    else if c.atBreak then
      let br := c.takeBreak
      if br.2.atSeparator then (none, br.2) else plainBreaks fuel br.2 (br.1 ++ breaks)
    else (some breaks.reverse, c)

/-- What breaks in a scalar stand for: one line feed is a space, of several the first is dropped. -/
def foldBreaks (first breaks : List Char) : List Char :=
  (if first != ['\n'] then first else if breaks.isEmpty then [' '] else []) ++ breaks

/-- What the white space behind a run stands for, the place behind it, and whether it has a line
break. -/
def plainSpaces (c : Cursor) : List Char × Cursor × Bool :=
  let spaces := c.run (· == ' ')
  let c := c.skip spaces.length
  if c.atBreak then
    let first := c.takeBreak
    if first.2.atSeparator then ([], first.2, true)
    else match plainBreaks first.2.left first.2 [] with
      | (some breaks, c) => (foldBreaks first.1 breaks, c, true)
      | (none, c) => ([], c, true)
  else (spaces, c, false)

/-- The rest of a plain scalar: its text, the place behind it, and whether it ended at a line
break. -/
def plainFrom (inFlow : Bool) (indent : Int) :
    Nat → Cursor → List Char → List Char → Bool → List Char × Cursor × Bool
  | 0, c, text, _, broke => (text.reverse, c, broke)
  | fuel + 1, c, text, spaces, broke =>
    let run := plainRun inFlow c.rest
    if c.isAt '#' || run.isEmpty then (text.reverse, c, broke)
    else
      let text := run.reverse ++ (spaces.reverse ++ text)
      let following := plainSpaces (c.skip run.length)
      let c := following.2.1
      if following.1.isEmpty || c.isAt '#' || (!inFlow && c.column < indent) then
        (text.reverse, c, following.2.2)
      else plainFrom inFlow indent fuel c text following.1 following.2.2

/-- A plain scalar under a parent with the given indentation. -/
def plain (inFlow : Bool) (indent : Int) (c : Cursor) : List Char × Cursor × Bool :=
  plainFrom inFlow (indent + 1) (c.left + 1) c [] [] false

/-! ### Quoted scalars -/

/-- The character that a letter behind a backslash stands for. -/
def escape? : Char → Option Char
  | '0' => some '\x00'
  | 'a' => some '\x07'
  | 'b' => some '\x08'
  | 't' => some '\t'
  | '\t' => some '\t'
  | 'n' => some '\n'
  | 'v' => some '\x0b'
  | 'f' => some '\x0c'
  | 'r' => some '\r'
  | 'e' => some '\x1b'
  | ' ' => some ' '
  | '"' => some '"'
  | '\\' => some '\\'
  | '/' => some '/'
  | 'N' => some '\x85'
  | '_' => some '\u00a0'
  | 'L' => some '\u2028'
  | 'P' => some '\u2029'
  | _ => none

/-- The number of hexadecimal digits behind a letter behind a backslash. -/
def escapeDigits? : Char → Option Nat
  | 'x' => some 2
  | 'u' => some 4
  | 'U' => some 8
  | _ => none

/-- The code point is half a surrogate pair. -/
def isHalf (code : Nat) : Bool := 0xD800 ≤ code && code ≤ 0xDFFF

/-- The character with a code point; half a surrogate pair gives the replacement character. -/
def charOfCode (code : Nat) : Except Fault Char :=
  if 0x7FFFFFFF < code then .error (.beyond .code)
  else if 0x10FFFF < code then .error (.refused .codePoint)
  else if isHalf code then .ok '\uFFFD'
  else .ok (Char.ofNat code)

/-- The line breaks in a quoted scalar, blanks around them left out. -/
def quotedBreaks : Nat → Cursor → List Char → Except Fault (List Char × Cursor)
  | 0, _, _ => .error .malformed
  | fuel + 1, c, breaks =>
    if c.atSeparator then .error .malformed
    else
      let c := c.skipRun fun ch => ch == ' ' || ch == '\t'
      if c.atBreak then
        let br := c.takeBreak
        quotedBreaks fuel br.2 (br.1 ++ breaks)
      else .ok (breaks.reverse, c)

/-- What stands behind a backslash. -/
def escaped (c : Cursor) : Except Fault (List Char × Cursor) :=
  match c.rest with
  | [] => .error .ended
  | ch :: rest =>
    match escape? ch with
    | some meant => .ok ([meant], c.next)
    | none =>
      match escapeDigits? ch with
      | some count =>
        let digits := rest.take count
        match if digits.length = count then Numeral.ofDigits? 16 digits else none with
        | some code => do
          let meant ← charOfCode code
          .ok ([meant], c.skip (count + 1))
        | none => .error .malformed
      | none =>
        if isBreak ch then quotedBreaks (c.left + 1) c.takeBreak.2 [] else .error .malformed

/-- A character that only stands for itself. -/
def isOrdinary (ch : Char) : Bool := !(isBlankOrBreak ch || ch == '\'' || ch == '"' || ch == '\\')

/-- The characters of a quoted scalar up to white space or the closing quote, put in front of those
before it. -/
def quotedRun (isDouble : Bool) : Nat → Cursor → List Char → Except Fault (List Char × Cursor)
  | 0, c, text => .ok (text, c)
  | fuel + 1, c, text =>
    let run := c.run isOrdinary
    let text := run.reverse ++ text
    let c := c.skip run.length
    match c.rest with
    | [] => .ok (text, c)
    | ch :: rest =>
      if isBlankOrBreak ch then .ok (text, c)
      else if isDouble then
        if ch == '"' then .ok (text, c)
        else if ch == '\\' then do
          let meant ← escaped c.next
          quotedRun isDouble fuel meant.2 (meant.1.reverse ++ text)
        else quotedRun isDouble fuel c.next (ch :: text)
      else if ch == '\'' then
        if rest.head? == some '\'' then quotedRun isDouble fuel (c.skip 2) ('\'' :: text)
        else .ok (text, c)
      else quotedRun isDouble fuel c.next (ch :: text)

/-- What white space in a quoted scalar stands for. -/
def quotedSpaces (c : Cursor) : Except Fault (List Char × Cursor) :=
  let blanks := c.run fun ch => ch == ' ' || ch == '\t'
  let c := c.skip blanks.length
  if c.atEnd then .error .ended
  else if c.atBreak then do
    let first := c.takeBreak
    let more ← quotedBreaks (first.2.left + 1) first.2 []
    .ok (foldBreaks first.1 more.1, more.2)
  else .ok (blanks, c)

/-- The rest of a quoted scalar: its text, and the place behind the closing quote. -/
def quotedFrom (isDouble : Bool) (quote : Char) :
    Nat → Cursor → List Char → Except Fault (List Char × Cursor)
  | 0, _, _ => .error .malformed
  | fuel + 1, c, text =>
    if c.isAt quote then .ok (text.reverse, c.next)
    else do
      let spaces ← quotedSpaces c
      let run ← quotedRun isDouble (spaces.2.left + 1) spaces.2 (spaces.1.reverse ++ text)
      quotedFrom isDouble quote fuel run.2 run.1

/-- A quoted scalar, from its opening quote on. -/
def quoted (isDouble : Bool) (c : Cursor) : Except Fault (List Char × Cursor) := do
  let run ← quotedRun isDouble (c.left + 1) c.next []
  quotedFrom isDouble (if isDouble then '"' else '\'') (c.left + 1) run.2 run.1

/-- There is an escape for half a surrogate pair before the next quote. -/
def hasHalf : List Char → Bool
  | '"' :: _ => false
  | '\\' :: c :: rest =>
    ((escapeDigits? c).bind fun count => Numeral.ofDigits? 16 (rest.take count)).any isHalf ||
      hasHalf rest
  | _ :: rest => hasHalf rest
  | [] => false

/-- The style of a scalar between double quotes, from its opening quote on. -/
def doubleStyle (cs : List Char) : Style := if hasHalf (cs.drop 1) then .halved else .marked

/-! ### Block scalars -/

/-- What happens to the line breaks at the end of a block. -/
inductive Chomping where
  | strip
  | clip
  | keep
deriving DecidableEq

/-- The indicator of a chomping. -/
def chomping? : Option Char → Option Chomping
  | some '+' => some .keep
  | some '-' => some .strip
  | _ => none

/-- The indentation that a header may give. -/
def indentation? : Option Char → Option (Except Fault Nat)
  | some ch =>
    if Numeral.isDigit ch then
      some (if ch == '0' then .error .malformed else .ok (ch.toNat - '0'.toNat))
    else none
  | none => none

/-- The indicators of a header, which come in either order. -/
def blockIndicators (c : Cursor) : Except Fault (Chomping × Option Nat × Cursor) :=
  match chomping? (c.peek 0) with
  | some chomping =>
    match indentation? (c.peek 1) with
    | some count => do .ok (chomping, some (← count), c.skip 2)
    | none => .ok (chomping, none, c.next)
  | none =>
    match indentation? (c.peek 0) with
    | some count => do
      let count ← count
      match chomping? (c.peek 1) with
      | some chomping => .ok (chomping, some count, c.skip 2)
      | none => .ok (.clip, some count, c.next)
    | none => .ok (.clip, none, c)

/-- The rest of a header line, on which only a comment may stand. -/
def endOfLine (c : Cursor) : Except Fault Cursor :=
  let c := (c.skipRun (· == ' ')).skipComment
  if c.atEnd || c.atBreak then .ok c.takeBreak.2 else .error .malformed

/-- The empty lines before a block, and the largest indentation among them and of the line that
follows. -/
def leadingBreaks : Nat → Cursor → List Char → Nat → List Char × Nat × Cursor
  | 0, c, breaks, deepest => (breaks.reverse, deepest, c)
  | fuel + 1, c, breaks, deepest =>
    if c.atBreak then
      let br := c.takeBreak
      leadingBreaks fuel br.2 (br.1 ++ breaks) deepest
    else if c.isAt ' ' then leadingBreaks fuel c.next breaks (max deepest c.next.column)
    else (breaks.reverse, deepest, c)

/-- Past the spaces up to a column. -/
def skipIndent (indent : Nat) : Nat → Cursor → Cursor
  | 0, c => c
  | fuel + 1, c => if c.column < indent && c.isAt ' ' then skipIndent indent fuel c.next else c

/-- The empty lines inside a block. -/
def blockBreaks (indent : Nat) : Nat → Cursor → List Char → List Char × Cursor
  | 0, c, breaks => (breaks.reverse, c)
  | fuel + 1, c, breaks =>
    let c := skipIndent indent indent c
    if c.atBreak then
      let br := c.takeBreak
      blockBreaks indent fuel br.2 (br.1 ++ breaks)
    else (breaks.reverse, c)

/-- The next character is a space or a tab. -/
def atBlank (c : Cursor) : Bool := (c.peek 0).any fun ch => ch == ' ' || ch == '\t'

/-- The lines of a block: its text, the last line break, and the breaks behind it. -/
def blockLines (isFolded : Bool) (indent : Nat) :
    Nat → Cursor → List Char → List Char → List Char → List Char × List Char × List Char × Cursor
  | 0, c, text, last, breaks => (text.reverse, last, breaks, c)
  | fuel + 1, c, text, last, breaks =>
    if c.column = indent ∧ !c.atEnd then
      let startsBlank := atBlank c
      let line := c.run fun ch => !isBreak ch
      let br := (c.skip line.length).takeBreak
      let following := blockBreaks indent (br.2.left + 1) br.2 []
      let text := line.reverse ++ (breaks.reverse ++ text)
      let c := following.2
      if c.column = indent ∧ !c.atEnd then
        let joint :=
          if isFolded && br.1 == ['\n'] && !startsBlank && !atBlank c then
            (if following.1.isEmpty then [' '] else [])
          else br.1
        blockLines isFolded indent fuel c (joint.reverse ++ text) br.1 following.1
      else (text.reverse, br.1, following.1, c)
    else (text.reverse, last, breaks, c)

/-- A block scalar under a parent with the given indentation, from its indicator on. -/
def block (isFolded : Bool) (parent : Int) (c : Cursor) : Except Fault (List Char × Cursor) := do
  let header ← blockIndicators c.next
  let c := header.2.2
  if !c.atSpaceOrBreak then .error .malformed
  let c ← endOfLine c
  let least := max 1 (parent + 1).toNat
  let start := match header.2.1 with
    | some count =>
      let indent := least + count - 1
      let breaks := blockBreaks indent (c.left + 1) c []
      (indent, breaks.1, breaks.2)
    | none =>
      let leading := leadingBreaks (c.left + 1) c [] 0
      (max least leading.2.1, leading.1, leading.2.2)
  let lines := blockLines isFolded start.1 (start.2.2.left + 1) start.2.2 [] [] start.2.1
  let tail := match header.1 with
    | .strip => []
    | .clip => lines.2.1
    | .keep => lines.2.1 ++ lines.2.2.1
  .ok (lines.1 ++ tail, lines.2.2.2)

end Typestate.Yaml.Scalar
