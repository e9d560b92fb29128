import Typestate.Yaml.Cursor
import Typestate.Yaml.Token
import Typestate.Number.Numeral
import Typestate.Text.Utf8

/-! # Anchors, tags and directives

The small units around a node, each a function from the place where it starts to what it says and
the place behind it. -/

namespace Typestate.Yaml.Property

/-- Characters of a name. -/
def isNameChar (c : Char) : Bool := c.isAlphanum || c == '-' || c == '_'

/-- A name of at least one character. -/
def name (c : Cursor) : Except Fault (String × Cursor) :=
  let chars := c.run isNameChar
  if chars.isEmpty then .error .malformed else .ok (String.ofList chars, c.skip chars.length)

/-- The name of an anchor or alias, from its indicator on. -/
def anchorName (c : Cursor) : Except Fault (String × Cursor) := do
  let named ← name c.next
  if (named.2.peek 0).all fun ch =>
      isBlankOrBreak ch || "?:,]\x7d%@\x60".toList.contains ch then .ok named
  else .error .malformed

/-- A handle: an exclamation mark, or a name between two of them. -/
def handle (c : Cursor) : Except Fault (String × Cursor) :=
  if !c.isAt '!' then .error .malformed
  else if c.next.isAt ' ' then .ok ("!", c.next)
  else
    let chars := c.next.run isNameChar
    let c' := c.next.skip chars.length
    if c'.isAt '!' then .ok (String.ofList ('!' :: chars ++ ['!']), c'.next) else .error .malformed

/-- Characters of a resource name, escapes left out. -/
def isUriChar (c : Char) : Bool := c.isAlphanum || "-;/?:@&=+$,_.!~*'()[]".toList.contains c

/-- Bytes that are written as escapes. -/
def escapedBytes : Nat → Cursor → List UInt8 → Except Fault (List UInt8 × Cursor)
  | 0, c, bytes => .ok (bytes, c)
  | fuel + 1, c, bytes =>
    if c.isAt '%' then
      let digits := c.next.rest.take 2
      match if digits.length = 2 then Numeral.ofDigits? 16 digits else none with
      | some code => escapedBytes fuel (c.skip 3) (bytes ++ [UInt8.ofNat code])
      | none => .error .malformed
    else .ok (bytes, c)

/-- The characters of a resource name. -/
def uriFrom : Nat → Cursor → List Char → Except Fault (List Char × Cursor)
  | 0, c, chars => .ok (chars, c)
  | fuel + 1, c, chars =>
    let run := c.run isUriChar
    let c := c.skip run.length
    if c.isAt '%' then do
      let bytes ← escapedBytes c.left c []
      match Text.Utf8.decode bytes.1 with
      | .ok meant => uriFrom fuel bytes.2 (chars ++ run ++ meant)
      | .error _ => .error .malformed
    else .ok (chars ++ run, c)

/-- A resource name of at least one character. -/
def uri (c : Cursor) : Except Fault (String × Cursor) := do
  let found ← uriFrom (c.left + 1) c []
  if found.1.isEmpty then .error .malformed else .ok (String.ofList found.1, found.2)

/-- An exclamation mark follows before the next space or break. -/
def hasHandle : List Char → Bool
  | [] => false
  | ch :: rest =>
    if ch == '!' then true else if ch == ' ' || isBreak ch then false else hasHandle rest

/-- A tag, from its exclamation mark on. -/
def tag (c : Cursor) : Except Fault (TagName × Cursor) := do
  let found ←
    if c.next.isAt '<' then do
      let name ← uri (c.skip 2)
      if name.2.isAt '>' then .ok ((⟨none, name.1⟩ : TagName), name.2.next) else .error .malformed
    else if c.isBoundary 1 then .ok (⟨none, "!"⟩, c.next)
    else if hasHandle c.next.rest then do
      let prefixed ← handle c
      let name ← uri prefixed.2
      .ok (⟨some prefixed.1, name.1⟩, name.2)
    else do
      let name ← uri c.next
      .ok (⟨some "!", name.1⟩, name.2)
  if found.2.atSpaceOrBreak then .ok found else .error .malformed

/-- Past the spaces. -/
def skipSpaces (c : Cursor) : Cursor := c.skipRun (· == ' ')

/-- A number of a version. -/
def number (c : Cursor) : Except Fault (Nat × Cursor) :=
  let digits := c.run Numeral.isDigit
  if Numeral.mostDigits < digits.length then .error (.refused (.longNumeral digits.length))
  else match Numeral.ofDigits? 10 digits with
    | some n => .ok (n, c.skip digits.length)
    | none => .error .malformed

/-- What a version directive says. -/
def version (c : Cursor) : Except Fault (Directive × Cursor) := do
  let major ← number (skipSpaces c)
  if !major.2.isAt '.' then .error .malformed
  let minor ← number major.2.next
  if !minor.2.atSpaceOrBreak then .error .malformed
  .ok (.version major.1, minor.2)

/-- What a tag directive says. -/
def tagHandle (c : Cursor) : Except Fault (Directive × Cursor) := do
  let handle ← handle (skipSpaces c)
  if !handle.2.isAt ' ' then .error .malformed
  let expansion ← uri (skipSpaces handle.2)
  if !expansion.2.atSpaceOrBreak then .error .malformed
  .ok (.handle handle.1 expansion.1, expansion.2)

/-- A directive line, from its percent sign on. -/
def directive (c : Cursor) : Except Fault (Directive × Cursor) := do
  let named ← name c.next
  if !named.2.atSpaceOrBreak then .error .malformed
  let found ←
    if named.1 == "YAML" then version named.2
    else if named.1 == "TAG" then tagHandle named.2
    else .ok (Directive.other, named.2.skipRun fun ch => !isBreak ch)
  let c := (skipSpaces found.2).skipComment
  if c.atEnd || c.atBreak then .ok (found.1, c.takeBreak.2) else .error .malformed

end Typestate.Yaml.Property
