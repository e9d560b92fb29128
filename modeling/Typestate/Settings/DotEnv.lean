import Typestate.Text.Blank

/-! # Files of variables

A file of variables has a line `NAME=value` for each variable; `export` may stand before the name,
and a name may be quoted. A value may be quoted, and go on over lines then; without quotes it ends
at a comment. A line that is none of this is left out.

* `lines`: the names, with their values if they have an equals sign.
* `interpolate`: a value with the variables that it refers to, as `${NAME}` or `${NAME:-default}`.
* `read`: the variables of a file. A later line counts more than an earlier one, and a reference
  sees the lines before it, and then the variables around. -/

namespace Typestate.DotEnv

open Text

/-- A character that ends a line. -/
def isLineEnd (c : Char) : Bool := c == '\n' || c == '\r'

/-- White space on a line. -/
def isInlineSpace (c : Char) : Bool := isBlank c && !isLineEnd c

/-- The text with every line end as a line feed. -/
def plainLineEnds : List Char → List Char
  | '\r' :: '\n' :: rest => '\n' :: plainLineEnds rest
  | '\r' :: rest => '\n' :: plainLineEnds rest
  | c :: rest => c :: plainLineEnds rest
  | [] => []

/-- Behind the rest of the line. -/
def skipLine (cs : List Char) : List Char := (cs.dropWhile fun c => !isLineEnd c).drop 1

/-- Behind `export` and the space after it. -/
def skipExport (cs : List Char) : List Char :=
  let word := "export".toList
  let rest := cs.drop word.length
  if cs.take word.length == word && rest.head?.any isInlineSpace then rest.dropWhile isInlineSpace
  else cs

/-- A part of a line: what it says and what is left, or what is left where it went wrong. -/
abbrev Part (α : Type) := Except (List Char) (α × List Char)

/-- The name of a variable; a comment has none. -/
def name (cs : List Char) : Part (Option String) :=
  match cs with
  | '#' :: _ => .ok (none, cs)
  | '\'' :: rest =>
    let chars := rest.takeWhile (· != '\'')
    match rest.drop chars.length with
    | _ :: behind => if chars.isEmpty then .error cs else .ok (some (String.ofList chars), behind)
    | [] => .error cs
  | _ =>
    let chars := cs.takeWhile fun c => c != '=' && c != '#' && !isBlank c
    if chars.isEmpty then .error cs else .ok (some (String.ofList chars), cs.drop chars.length)

/-- The characters before the quote that closes a value, and those behind it. A quote behind a
backslash does not close the value. -/
def untilQuote (quote : Char) : List Char → Option (List Char × List Char)
  | [] => none
  | '\\' :: c :: rest => (untilQuote quote rest).map fun found => ('\\' :: c :: found.1, found.2)
  | c :: rest =>
    if c = quote then some ([], rest)
    else (untilQuote quote rest).map fun found => (c :: found.1, found.2)

/-- The character that a letter behind a backslash stands for; between single quotes only the
backslash and the quote have a meaning. -/
def escape? (quote : Char) : Char → Option Char
  | '\\' => some '\\'
  | '\'' => some '\''
  | c =>
    if quote == '\'' then none
    else match c with
      | '"' => some '"'
      | 'a' => some '\x07'
      | 'b' => some '\x08'
      | 'f' => some '\x0c'
      | 'n' => some '\n'
      | 'r' => some '\r'
      | 't' => some '\t'
      | 'v' => some '\x0b'
      | _ => none

/-- The text with its escapes read. -/
def unescape (quote : Char) : List Char → List Char
  | '\\' :: c :: rest =>
    match escape? quote c with
    | some meant => meant :: unescape quote rest
    | none => '\\' :: unescape quote (c :: rest)
  | c :: rest => c :: unescape quote rest
  | [] => []

/-- The text up to a comment that follows white space; `blanks` is the white space just before, last
character first. -/
def beforeComment (blanks : List Char) : List Char → List Char
  | [] => blanks.reverse
  | c :: rest =>
    if isBlank c then beforeComment (c :: blanks) rest
    else if c == '#' && !blanks.isEmpty then []
    else blanks.reverse ++ c :: beforeComment [] rest

/-- A value without quotes. -/
def plainValue (cs : List Char) : String × List Char :=
  let chars := cs.takeWhile fun c => !isLineEnd c
  (String.ofList (stripChars (beforeComment [] chars)), cs.drop chars.length)

/-- A value behind an equals sign. -/
def value (cs : List Char) : Part String :=
  match cs.dropWhile isInlineSpace with
  | [] => .ok (plainValue cs)
  | c :: rest =>
    if c == '\'' || c == '"' then
      match untilQuote c rest with
      | some (chars, behind) => .ok (String.ofList (unescape c chars), behind)
      | none => .error (c :: rest)
    else .ok (plainValue cs)

/-- Past a comment and the end of the line. -/
def lineEnd (cs : List Char) : Part Unit :=
  let rest := cs.dropWhile isInlineSpace
  let rest := match rest with
    | '#' :: _ => rest.dropWhile fun c => !isLineEnd c
    | rest => rest
  match rest with
  | [] => .ok ((), [])
  | c :: behind => if isLineEnd c then .ok ((), behind) else .error rest

/-- A line: a name and a value, if there are any. -/
def line (cs : List Char) :
    Except (List Char) (Option (String × Option String) × List Char) := do
  let (name, rest) ← name (skipExport cs)
  let rest := rest.dropWhile isInlineSpace
  let (value, rest) ←
    match rest with
    | '=' :: behind => (fun found => (some found.1, found.2)) <$> value behind
    | rest => .ok (none, rest)
  let ((), rest) ← lineEnd rest
  .ok (name.map fun n => (n, value), rest)

/-- The lines of a file; the number bounds how many there are. -/
def linesFrom : Nat → List Char → List (String × Option String)
  | 0, _ => []
  | fuel + 1, cs =>
    match cs.dropWhile isBlank with
    | [] => []
    | cs =>
      match line cs with
      | .ok (some found, rest) => found :: linesFrom fuel rest
      | .ok (none, rest) => linesFrom fuel rest
      | .error rest => linesFrom fuel (skipLine rest)

/-- The characters behind a byte order mark. -/
def behindMark : List Char → List Char
  | '\uFEFF' :: rest => rest
  | cs => cs

/-- The lines of a file. -/
def lines (file : String) : List (String × Option String) :=
  let cs := plainLineEnds (behindMark file.toList)
  linesFrom (cs.length + 1) cs

/-- The reference to a variable that starts behind a dollar sign, its default, and what is left. -/
def reference? : List Char → Option (String × String × List Char)
  | '\x7b' :: rest =>
    let name := rest.takeWhile fun c => c != '\x7d' && c != ':'
    match rest.drop name.length with
    | '\x7d' :: behind => some (String.ofList name, "", behind)
    | ':' :: '-' :: rest =>
      let default := rest.takeWhile (· != '\x7d')
      match rest.drop default.length with
      | _ :: behind => some (String.ofList name, String.ofList default, behind)
      | [] => none
    | _ => none
  | _ => none

/-- The text with references replaced; the number bounds the steps. -/
def interpolateFrom (meaning : String → String → String) : Nat → List Char → List Char
  | 0, cs => cs
  | fuel + 1, cs =>
    match cs with
    | [] => []
    | c :: rest =>
      match if c == '$' then reference? rest else none with
      | some (name, default, behind) =>
        (meaning name default).toList ++ interpolateFrom meaning fuel behind
      | none => c :: interpolateFrom meaning fuel rest

/-- The text with references replaced. -/
def interpolate (meaning : String → String → String) (s : String) : String :=
  String.ofList (interpolateFrom meaning s.toList.length s.toList)

/-- The variables with one more; a name that is there keeps its place. -/
def put (name : String) (value : Option String) :
    List (String × Option String) → List (String × Option String)
  | [] => [(name, value)]
  | (n, v) :: rest => if n = name then (n, value) :: rest else (n, v) :: put name value rest

/-- The variables found so far and those of further lines, with references replaced. -/
def resolved (around : List (String × String)) (found : List (String × Option String)) :
    List (String × Option String) → List (String × Option String)
  | [] => found
  | (name, value) :: rest =>
    let meaning (name default : String) : String :=
      match found.lookup name with
      | some value => value.getD ""
      | none => (around.lookup name).getD default
    resolved around (put name (value.map (interpolate meaning)) found) rest

/-- **The variables of a file,** in the order of their first lines; a name whose last line has no
equals sign has no value. `around` are the variables around the file. -/
def read (around : List (String × String)) (file : String) : List (String × Option String) :=
  resolved around [] (lines file)

/-- **The last line for a name counts.** -/
theorem lookup_put (name : String) (value : Option String) (found : List (String × Option String)) :
    (put name value found).lookup name = some value := by
  induction found with
  | nil => simp [put]
  | cons e rest ih =>
    obtain ⟨n, v⟩ := e
    unfold put
    split
    · next h => simp [h]
    · next h =>
      have : (name == n) = false := by simpa using fun e => h e.symm
      simp [List.lookup_cons, this, ih]

end Typestate.DotEnv
