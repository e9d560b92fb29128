import Typestate.Data
import Typestate.Number.Shortest
import Typestate.Text.Quoted

/-! # Literals

How a value is shown inside a message: `Data.literal` quotes texts, `Data.display` shows a text by
itself and everything else as a literal. -/

namespace Typestate

namespace Date

/-- A date as a literal. -/
def literal (d : Date) : String :=
  "datetime.date(" ++ Text.commaList [toString d.year, toString d.month, toString d.day] ++ ")"

/-- A number with at least `width` digits. -/
def padded (width n : Nat) : String :=
  let digits := Nat.toDigits 10 n
  String.ofList (List.replicate (width - digits.length) '0' ++ digits)

/-- A date as year, month and day. -/
def display (d : Date) : String :=
  padded 4 d.year ++ "-" ++ padded 2 d.month ++ "-" ++ padded 2 d.day

end Date

namespace Moment

/-- The offset as a literal. -/
def zoneLiteral (minutes : Int) : String :=
  if minutes = 0 then "datetime.timezone.utc"
  else "datetime.timezone(" ++ CalendarFault.spanText minutes ++ ")"

/-- A moment as a literal; seconds and microseconds are left out when they and what follows are
zero. -/
def literal (m : Moment) : String :=
  let small :=
    if m.microsecond ≠ 0 then [toString m.second, toString m.microsecond]
    else if m.second ≠ 0 then [toString m.second] else []
  let zone := match m.offset with
    | none => []
    | some minutes => ["tzinfo=" ++ zoneLiteral minutes]
  "datetime.datetime(" ++
    Text.commaList ([toString m.date.year, toString m.date.month, toString m.date.day,
      toString m.hour, toString m.minute] ++ small ++ zone) ++ ")"

/-- A moment as date, time and offset. -/
def display (m : Moment) : String :=
  let fraction := if m.microsecond = 0 then "" else "." ++ Date.padded 6 m.microsecond
  let zone := match m.offset with
    | none => ""
    | some minutes =>
      (if minutes < 0 then "-" else "+") ++ Date.padded 2 (minutes.natAbs / 60) ++ ":" ++
        Date.padded 2 (minutes.natAbs % 60)
  m.date.display ++ " " ++ Date.padded 2 m.hour ++ ":" ++ Date.padded 2 m.minute ++ ":" ++
    Date.padded 2 m.second ++ fraction ++ zone

end Moment

namespace Data

mutual

/-- The value as a literal. -/
def literal : Data → String
  | .null => "None"
  | .bool b => if b then "True" else "False"
  | .int i => toString i
  | .float x => x.text
  | .text s => Text.quoted s
  | .halved s => Text.quoted s
  | .date d => d.literal
  | .moment m => m.literal
  | .bytes content => Text.quotedBytes content
  | .list items => "[" ++ Text.commaList (literals items) ++ "]"
  | .set members =>
    if members.isEmpty then "set()" else "\x7b" ++ Text.commaList (literals members) ++ "\x7d"
  | .pair first second => "(" ++ Text.commaList [literal first, literal second] ++ ")"
  | .map entries => "\x7b" ++ Text.commaList (entryLiterals entries) ++ "\x7d"

/-- The literals of a list. -/
def literals : List Data → List String
  | [] => []
  | d :: rest => literal d :: literals rest

/-- The literals of entries, key before value. -/
def entryLiterals : List (Data × Data) → List String
  | [] => []
  | (k, v) :: rest => (literal k ++ ": " ++ literal v) :: entryLiterals rest

end

/-- The value as it is shown by itself. -/
def display : Data → String
  | .text s => s
  | .halved s => s
  | .date d => d.display
  | .moment m => m.display
  | d => d.literal

theorem literals_eq_map (items : List Data) : literals items = items.map literal := by
  induction items with
  | nil => rfl
  | cons d rest ih => simp [literals, ih]

/-- **A list of texts is shown as the quoted texts in brackets.** -/
theorem literal_texts (items : List String) : (texts items).literal = Text.quotedList items := by
  simp only [texts, literal, Text.quotedList, literals_eq_map, List.map_map]
  congr 3

end Data
end Typestate
