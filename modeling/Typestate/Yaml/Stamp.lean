import Typestate.Calendar
import Typestate.Number.Numeral

/-! # Dates and times in documents

A `Stamp` is a date, with or without a time of day, as a plain scalar writes it.

* `Stamp.ofText?`: the stamp that a text writes.
* `Stamp.date`, `Stamp.moment`: what a stamp denotes, if its numbers make a date and a time. -/

namespace Typestate.Yaml

/-- A time zone: universal time, or hours and minutes ahead of it or behind it. -/
structure Zone where
  isBehind : Bool
  hours : Nat
  minutes : Nat

/-- A time of day as it is written. -/
structure Clock where
  hour : Nat
  minute : Nat
  second : Nat
  fraction : List Char
  zone : Option Zone

/-- A date, and possibly a time, as they are written. -/
structure Stamp where
  year : Nat
  month : Nat
  day : Nat
  clock : Option Clock

namespace Stamp

open Numeral

/-- A run of one or two digits, and the rest. -/
def shortNumber? : List Char → Option (List Char × List Char)
  | c :: d :: rest =>
    if isDigit c then if isDigit d then some ([c, d], rest) else some ([c], d :: rest) else none
  | [c] => if isDigit c then some ([c], []) else none
  | [] => none

/-- A run of as many digits, and the rest. -/
def digitsOf? (count : Nat) (cs : List Char) : Option (List Char × List Char) :=
  let run := cs.take count
  if run.length = count ∧ run.all isDigit then some (run, cs.drop count) else none

/-- The text behind a character. -/
def behind? (c : Char) : List Char → Option (List Char)
  | d :: rest => if d = c then some rest else none
  | [] => none

/-- A time zone up to the end of the text. -/
def zone? : List Char → Option Zone
  | ['Z'] => some ⟨false, 0, 0⟩
  | sign :: rest => do
    if sign ≠ '+' ∧ sign ≠ '-' then none
    let (hours, rest) ← shortNumber? rest
    match rest with
    | [] => some ⟨sign == '-', ofDigitsD hours, 0⟩
    | rest =>
      let (minutes, rest) ← digitsOf? 2 (← behind? ':' rest)
      if rest.isEmpty then some ⟨sign == '-', ofDigitsD hours, ofDigitsD minutes⟩ else none
  | [] => none

/-- What follows the seconds. -/
def ending? (cs : List Char) : Option (List Char × Option Zone) :=
  let behind := match cs with
    | '.' :: rest => (rest.takeWhile isDigit, rest.dropWhile isDigit)
    | cs => ([], cs)
  match behind.2 with
  | [] => some (behind.1, none)
  | rest => do some (behind.1, some (← zone? (rest.dropWhile fun c => c == ' ' || c == '\t')))

/-- A time of day up to the end of the text. -/
def clock? (cs : List Char) : Option Clock := do
  let (hour, rest) ← shortNumber? cs
  let (minute, rest) ← digitsOf? 2 (← behind? ':' rest)
  let (second, rest) ← digitsOf? 2 (← behind? ':' rest)
  let (fraction, zone) ← ending? rest
  some ⟨ofDigitsD hour, ofDigitsD minute, ofDigitsD second, fraction, zone⟩

/-- The text behind what separates the time from the date. -/
def behindDate? : List Char → Option (List Char)
  | 'T' :: rest => some rest
  | 't' :: rest => some rest
  | c :: rest =>
    if c == ' ' || c == '\t' then some (rest.dropWhile fun d => d == ' ' || d == '\t') else none
  | [] => none

/-- A date with or without a time. -/
def ofText? (cs : List Char) : Option Stamp := do
  let (year, rest) ← digitsOf? 4 cs
  let (month, rest) ← shortNumber? (← behind? '-' rest)
  let (day, rest) ← shortNumber? (← behind? '-' rest)
  match rest with
  | [] => some ⟨ofDigitsD year, ofDigitsD month, ofDigitsD day, none⟩
  | rest =>
    let clock ← clock? (← behindDate? rest)
    some ⟨ofDigitsD year, ofDigitsD month, ofDigitsD day, some clock⟩

/-- The date of a stamp. -/
def date (s : Stamp) : Except CalendarFault Date := Date.ofFields s.year s.month s.day

/-- The digits of a fraction of a second, as microseconds. -/
def microseconds (digits : List Char) : Nat :=
  let six := digits.take 6
  ofDigitsD six * Nat.pow 10 (6 - six.length)

/-- Minutes ahead of universal time. -/
def zoneOffset (z : Zone) : Except CalendarFault Int :=
  let minutes : Int := z.hours * 60 + z.minutes
  Moment.checkOffset (if z.isBehind then -minutes else minutes)

/-- The moment of a stamp with a time; the zone is checked first. -/
def moment (s : Stamp) (c : Clock) : Except CalendarFault Moment := do
  let offset ← c.zone.mapM zoneOffset
  let date ← s.date
  Moment.ofFields date c.hour c.minute c.second (microseconds c.fraction) offset

end Stamp
end Typestate.Yaml
