import Typestate.Schema.Checked
import Typestate.Text.Identifier
import Typestate.Text.LetterCase
import Typestate.Log.Level

/-! # Settings

What can be set about generation and about the log. The first four settings shape the generated
wrappers and the way they are computed, the last two the log.

* `Settings.Field`: the settings by name.
* `Settings.check`: the settings with given values; what is not given has its default. Every value
  that does not fit is an issue of its own. -/

namespace Typestate

/-- The settings, with their defaults. -/
structure Settings where
  nameSuffix : String := "State"
  fieldName : String := "_wrapped"
  argumentName : String := "stateful_object"
  maxWorkers : Int := 1
  logLevel : String := "WARNING"
  logJson : Bool := false
deriving DecidableEq

namespace Settings

/-- One of the settings. -/
inductive Field where
  | nameSuffix
  | fieldName
  | argumentName
  | maxWorkers
  | logLevel
  | logJson
deriving DecidableEq

/-- The name of a setting. -/
def Field.key : Field → String
  | .nameSuffix => "name_suffix"
  | .fieldName => "wrapped_field_name"
  | .argumentName => "constructor_argument_name"
  | .maxWorkers => "max_workers"
  | .logLevel => "log_level"
  | .logJson => "log_json"

open Schema

/-- A name that can be a part of an identifier. -/
def identifier (d : Data) : Checked String :=
  (text d).andThen fun s =>
    if Text.isIdentifierTail s then .valid s
    else Checked.fault (.rejected ("'" ++ s ++ "' is not a valid identifier"))

/-- The levels that can be set by name. -/
def levelNames : List String := ["DEBUG", "INFO", "WARNING", "ERROR", "CRITICAL"]

/-- A name that no level has. -/
def unknownLevel (s : String) : Checked String :=
  Checked.fault (.rejected
    ("Invalid log level: " ++ s ++ ". Valid: " ++ Text.quotedList levelNames))

/-- The name of the level of a number, unless the number has more digits than can be written. -/
def numberedLevelName (i : Int) : Checked String :=
  if (toString i.natAbs).length ≤ Numeral.mostDigits then .valid (Level.name i)
  else Checked.fault (.rejected
    ("Exceeds the limit (4300 digits) for integer string conversion; " ++
      "use sys.set_int_max_str_digits() to increase the limit"))

/-- The name of a log level, in any case; a number stands for the level of that number. -/
def logLevelName : Data → Checked String
  | .int i => numberedLevelName i
  | .bool b => .valid (if b then Level.unnamed "True" else Level.name 0)
  | .text s => if levelNames.contains (Text.upper s) then .valid (Text.upper s) else unknownLevel s
  | .halved s => unknownLevel s
  | d => text d

/-- The value of a setting, or its default. -/
def valueOf {α : Type} (find : Field → Option Data) (f : Field) (default : α)
    (check : Data → Checked α) : Checked α :=
  match find f with
  | some d => (check d).under (.key f.key)
  | none => .valid default

/-- **The settings with given values.** -/
def check (find : Field → Option Data) : Checked Settings :=
  let defaults : Settings := {}
  Settings.mk <$> valueOf find .nameSuffix defaults.nameSuffix identifier
    <*> valueOf find .fieldName defaults.fieldName identifier
    <*> valueOf find .argumentName defaults.argumentName identifier
    <*> valueOf find .maxWorkers defaults.maxWorkers (wholeFrom 1)
    <*> valueOf find .logLevel defaults.logLevel logLevelName
    <*> valueOf find .logJson defaults.logJson truth

/-- Without any value the settings are the defaults. -/
theorem check_none : check (fun _ => none) = .valid {} := rfl

theorem Field.key_injective {f g : Field} (h : f.key = g.key) : f = g := by
  cases f <;> cases g <;> simp_all [key]

end Settings
end Typestate
