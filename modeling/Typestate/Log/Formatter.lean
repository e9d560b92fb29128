import Typestate.Log.Record
import Typestate.Data.Json

/-! # Log lines

A formatter writes a record as a line: as JSON, for programs, or in words, for people. The time of
the record is given as text. -/

namespace Typestate

/-- How records are written. -/
inductive Formatter where
  /-- As JSON, with the place in the code if wanted, and with further fields. -/
  | structured (showsPlace : Bool) (fields : List (String × Data))
  /-- In words, with coloured level names if wanted. -/
  | readable (isColoured : Bool)

namespace Formatter

/-- The place in the code. -/
def placeData (r : Record) : Data :=
  Data.ofPairs
    [("file", r.file), ("line", r.line), ("function", r.function), ("module", r.module)]

/-- The name of a level in small letters. -/
def smallName : Data → Except Failure String
  | .text name => .ok (Text.lower name)
  | d => .error (.lacking d.kindName "lower")

/-- The entries of a record with a message; further fields are added if their keys are new. -/
def entries (showsPlace : Bool) (fields : List (String × Data)) (time : String) (r : Record) :
    Except Failure (List (String × Data)) := do
  let level ← smallName r.levelName
  let message ← Message.render r.template.display r.arguments
  let exception ← r.failure.toData?
  r.failure.checked
  .ok (Record.filledIn
    ([("timestamp", .text time), ("level", .text level), ("level_num", r.level),
      ("message", .text message), ("logger", r.logger)] ++
      (if showsPlace then [("location", placeData r)] else []) ++
      (match exception with | none => [] | some d => [("exception", d)]) ++
      (if r.context.isEmpty then [] else [("context", Data.ofPairs r.context)]))
    fields)

/-- The colours of level names. -/
def colours : List (String × String) :=
  [("DEBUG", "\x1b[36m"), ("INFO", "\x1b[32m"), ("WARNING", "\x1b[33m"), ("ERROR", "\x1b[31m"),
    ("CRITICAL", "\x1b[35m")]

/-- The colour of a level; others have none. -/
def colour (level : Data) : Except Failure String :=
  match level with
  | .text name => .ok ((colours.lookup name).getD "")
  | level => if level.isKey then .ok "" else .error (.mismatch (.notHashable level.kindName))

/-- The end of a colour. -/
def colourEnd : String := "\x1b[0m"

/-- The width of the longest name of a level. -/
def levelWidth : Nat := 8

/-- The spaces that a text needs to be as wide as a level. -/
def spacesFor (s : String) : String := String.ofList (List.replicate (levelWidth - s.length) ' ')

/-- The name of a level, as wide as the longest one; a number stands at the right. -/
def padded (level : Data) : Except Failure String :=
  let right (s : String) : Except Failure String := .ok (spacesFor s ++ s)
  match level with
  | .text name => .ok (name ++ spacesFor name)
  | .int i => right (toString i)
  | .bool b => right (if b then "1" else "0")
  | .float x => right x.text
  | level => .error (.mismatch (.notPadded level.kindName))

/-- The name of a level, in its colour if wanted. -/
def levelText (isColoured : Bool) (level : Data) : Except Failure String :=
  if isColoured then do
    let colour ← colour level
    let shown ← padded level
    .ok (colour ++ shown ++ colourEnd)
  else padded level

/-- A value of the context; the items of a list are not quoted. -/
def contextValue : Data → String
  | .list items => "[" ++ Text.commaList (items.map Data.display) ++ "]"
  | d => d.display

/-- The context in words. -/
def contextText (context : List (String × Data)) : String :=
  if context.isEmpty then ""
  else " (" ++ String.intercalate " " (context.map fun e => e.1 ++ "=" ++ contextValue e.2) ++ ")"

/-- A record in words. -/
def readableText (isColoured : Bool) (time : String) (r : Record) : Except Failure String := do
  let level ← levelText isColoured r.levelName
  let message ← Message.render r.template.display r.arguments
  r.failure.checked
  let failure := match ← r.failure.lines? with
    | none => ""
    | some lines => "\n" ++ lines
  .ok (time ++ " " ++ level ++ " [" ++ r.logger.display ++ "] " ++ message ++
    contextText r.context ++
    failure)

/-- **The text of a record.** -/
def write (f : Formatter) (time : String) (r : Record) : Except Failure String := do
  match f with
  | .structured showsPlace fields => .ok (Data.ofPairs (← entries showsPlace fields time r)).json
  | .readable isColoured => readableText isColoured time r

/-- Colours are used if wanted, on a terminal, unless the variable against colours is set. -/
def usesColours (wanted isTerminal : Bool) (noColour : Option String) : Bool :=
  wanted && isTerminal && (noColour.getD "").isEmpty

end Formatter
end Typestate
