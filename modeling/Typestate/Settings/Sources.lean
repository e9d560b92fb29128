import Typestate.Settings
import Typestate.Settings.DotEnv
import Typestate.Failure
import Typestate.Yaml.File

/-! # Where settings come from

A setting is given by an argument, by a variable, or by a file of variables; the first of these
that gives it counts. A settings file gives arguments too, and the variables in capitals count more
than it.

* `Surroundings`: the variables, and the file of variables.
* `LookUp`: how variables are looked up. Arguments whose names start with an underscore say so.
* `Settings.find`: the value given for a setting.
* `Settings.ofArguments`, `Settings.ofFile`: the settings from arguments and from a settings
  file. -/

namespace Typestate

/-- What is set around the program. -/
structure Surroundings where
  bindings : List (String × String) := []
  dotenv : Option String := none

namespace Settings

/-- What the names of variables start with. -/
def variablePrefix : String := "STATEGEN_"

/-- The name of the variable of a setting, in capitals. -/
def Field.variableName (f : Field) : String := variablePrefix ++ Text.upper f.key

/-- How variables are looked up. -/
structure LookUp where
  /-- What their names start with. -/
  start : String := variablePrefix
  /-- Capitals and small letters are different. -/
  isExact : Bool := false
  readsFile : Bool := true
  skipsEmpty : Bool := false
  /-- The text that stands for no value. -/
  nullText : Option Data := none

namespace LookUp

/-- The path of the file of variables. -/
def filePath : String := ".env"

/-- A value names the file of variables. -/
def namesFile (d : Data) : Bool :=
  match d with
  | .text path =>
    let parts := path.splitOn "/"
    parts.head? != some "" && (parts.filter fun part => part != "" && part != ".") == [filePath]
  | _ => false

/-- The option that an argument gives. Five options are looked at. Others, such as those for secret
files, for command lines, for nested values or for the encoding of the file, are not rendered: their
arguments change nothing here. -/
def withOption (l : LookUp) (name : String) (value : Data) : LookUp :=
  match name, value with
  | "_env_file", .null => { l with readsFile := false }
  | "_env_file", .list paths => { l with readsFile := paths.any namesFile }
  | "_env_file", path => { l with readsFile := namesFile path }
  | _, .null => l
  | "_env_prefix", .text start => { l with start }
  | "_case_sensitive", value => { l with isExact := !value.isVoid }
  | "_env_ignore_empty", value => { l with skipsEmpty := !value.isVoid }
  | "_env_parse_none_str", word => { l with nullText := some word }
  | _, _ => l

/-- How variables are looked up by arguments. -/
def ofArguments (arguments : List (String × Data)) : LookUp :=
  arguments.foldl (fun l a => l.withOption a.1 a.2) {}

variable (l : LookUp)

/-- The name is that of the variable of a setting. -/
def isVariable (f : Field) (name : String) : Bool :=
  if l.isExact then name == l.start ++ f.key
  else Text.lower name == Text.lower (l.start ++ f.key)

/-- A value counts. -/
def counts (value : String) : Bool := !(l.skipsEmpty && value.isEmpty)

/-- What the text of a variable gives. -/
def meaning (value : String) : Data :=
  match l.nullText with
  | some (.text word) => if value = word then .null else .text value
  | _ => .text value

end LookUp

/-- The argument for a setting: the first one with its name, in any case. -/
def findArgument (arguments : List (String × Data)) (f : Field) : Option Data :=
  (arguments.find? fun e => Text.lower e.1 == f.key).map Prod.snd

/-- The variable for a setting: the last one with its name. -/
def findVariable (l : LookUp) (bindings : List (String × String)) (f : Field) : Option String :=
  (bindings.reverse.find? fun e => l.isVariable f e.1 && l.counts e.2).map Prod.snd

/-- The value for a setting in the file of variables: the last one with its name. -/
def findInFile (l : LookUp) (around : Surroundings) (f : Field) : Option String :=
  let lines := match around.dotenv with
    | none => []
    | some file => if l.readsFile then DotEnv.read around.bindings file else []
  (lines.reverse.find? fun e => l.isVariable f e.1 && e.2.all l.counts).bind Prod.snd

/-- The value given for a setting. -/
def find (around : Surroundings) (arguments : List (String × Data)) (f : Field) : Option Data :=
  let l := LookUp.ofArguments arguments
  findArgument arguments f <|>
    (findVariable l around.bindings f <|> findInFile l around f).map l.meaning

/-- **The settings from arguments.** -/
def ofArguments (around : Surroundings) (arguments : List (String × Data)) :
    Except Failure Settings :=
  match check (find around arguments) with
  | .valid s => .ok s
  | .invalid issues => .error (.schema issues)

/-- All settings. -/
def Field.all : List Field :=
  [.nameSuffix, .fieldName, .argumentName, .maxWorkers, .logLevel, .logJson]

/-- The variable for a setting, in capitals. -/
def override? (bindings : List (String × String)) (f : Field) : Option String :=
  (bindings.reverse.find? fun e => e.1 == f.variableName).map Prod.snd

/-- The variables in capitals, as values of settings. -/
def overrides (bindings : List (String × String)) : List (Field × String) :=
  Field.all.filterMap fun f => (override? bindings f).map fun value => (f, value)

/-- The entries of a settings file with the variables in capitals laid over them. -/
def overlaid (bindings : List (String × String)) (entries : List (Data × Data)) :
    List (Data × Data) :=
  (overrides bindings).foldl
    (fun entries o => Data.insertEntry (.text o.1.key) (.text o.2) entries) entries

/-- The name that a key gives to an argument. -/
def argumentName? : Data → Option String
  | .text name => some name
  | .halved name => some name
  | _ => none

/-- The entries as arguments, if all keys are texts. -/
def asArguments? (entries : List (Data × Data)) : Option (List (String × Data)) :=
  entries.mapM fun e => (argumentName? e.1).map fun name => (name, e.2)

/-- The settings from the entries of a settings file. -/
def ofEntries (around : Surroundings) (entries : List (Data × Data)) : Except Failure Settings :=
  match asArguments? (overlaid around.bindings entries) with
  | some arguments => ofArguments around arguments
  | none => .error (.mismatch .keysNotText)

/-- The kind of a value that is not a mapping, in full. -/
def fullKindName : Data → String
  | .date _ => "datetime.date"
  | .moment _ => "datetime.datetime"
  | d => d.kindName

/-- The settings from the value of a settings file; a value that stands for nothing sets nothing. -/
def ofData (around : Surroundings) (d : Data) : Except Failure Settings :=
  if d.isVoid then ofEntries around []
  else match d with
    | .map entries => ofEntries around entries
    | .set _ => .error (.mismatch (.notKeyed d.kindName))
    | d => .error (.lacking (fullKindName d) "update")

/-- **The settings from a settings file;** an absent file sets nothing. -/
def ofFile (around : Surroundings) (path : String) (file : Yaml.File) : Except Failure Settings :=
  match file.read with
  | .ok d => ofData around d
  | .error .absent => ofEntries around []
  | .error .directory => .error (.directory path)
  | .error (.document fault) => .error fault.failure

/-- **An argument counts more than what is set around.** -/
theorem find_of_argument {arguments : List (String × Data)} {f : Field} {d : Data}
    (h : findArgument arguments f = some d) (around : Surroundings) :
    find around arguments f = some d := by
  simp [find, h]

end Settings
end Typestate
