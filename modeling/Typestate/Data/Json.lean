import Typestate.Data.Literal

/-! # JSON

A value written as one line of JSON. Items are separated by a comma and a space, a key is followed
by a colon and a space, and only quotes, backslashes and control characters are escaped. A key
that is not a text is written as its literal in quotes. -/

namespace Typestate.Data

/-- A character inside a JSON string. -/
def jsonChar (c : Char) : List Char :=
  if c = '"' || c = '\\' then ['\\', c]
  else if c = '\n' then ['\\', 'n']
  else if c = '\r' then ['\\', 'r']
  else if c = '\t' then ['\\', 't']
  else if c = '\x08' then ['\\', 'b']
  else if c = '\x0c' then ['\\', 'f']
  else if c.toNat < 0x20 then '\\' :: 'u' :: Text.hexDigits 4 c.toNat
  else [c]

/-- A JSON string. -/
def jsonText (s : String) : String :=
  String.ofList ('"' :: s.toList.flatMap jsonChar ++ ['"'])

/-- A number of JSON, or one of the three words for what is none. -/
def jsonFloat : Double → String
  | .infinite s => if s then "-Infinity" else "Infinity"
  | .nan => "NaN"
  | x => x.text

/-- A key, as a text. -/
def jsonKey : Data → String
  | .null => "null"
  | .bool b => if b then "true" else "false"
  | .float x => jsonFloat x
  | d => d.display

mutual

/-- The value as JSON. -/
def json : Data → String
  | .null => "null"
  | .bool b => if b then "true" else "false"
  | .int i => toString i
  | .float x => jsonFloat x
  | .text s => jsonText s
  | .halved s => jsonText s
  | .date d => jsonText d.display
  | .moment m => jsonText m.display
  | .bytes content => jsonText (literal (.bytes content))
  | .list items => "[" ++ Text.commaList (jsonItems items) ++ "]"
  | .set members => jsonText (literal (.set members))
  | .pair first second => "[" ++ Text.commaList [json first, json second] ++ "]"
  | .map entries => "\x7b" ++ Text.commaList (jsonEntries entries) ++ "\x7d"

/-- The items of a list as JSON. -/
def jsonItems : List Data → List String
  | [] => []
  | d :: rest => json d :: jsonItems rest

/-- The entries of a mapping as JSON. -/
def jsonEntries : List (Data × Data) → List String
  | [] => []
  | (k, v) :: rest => (jsonText (jsonKey k) ++ ": " ++ json v) :: jsonEntries rest

end

end Typestate.Data
