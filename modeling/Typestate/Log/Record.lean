import Typestate.Log.Level
import Typestate.Log.Message
import Typestate.Trace
import Typestate.Text.LetterCase

/-! # Log records

* `Record`: what is logged: level, logger, message, place in the code, further attributes, and the
  failure that the record is about, if any. Attributes may hold any value; a value that a formatter
  cannot use is found out there.
* `Record.ofCall`: the record of a call to the log.
* `Record.context`: the entity, capability and permutation that the record is about. Its own
  attributes come first; a report fills in what they leave out.
* `Record.ofEvent`: the record of an event of a run. -/

namespace Typestate

/-- What a record says about a failure. -/
inductive Attachment where
  | none
  | report (r : Report)
  | raised (kind text : String)
  /-- Another value in the place of a failure and its kind and origin. -/
  | given (d : Data)

/-- The module that reports are named under. -/
def reportModule : String := "stategen.errors.base"

/-- A failure on its own, after the full name of its kind. -/
def traceLine (kind text : String) : String := if text.isEmpty then kind else kind ++ ": " ++ text

namespace Attachment

/-- The attachment that a value stands for. -/
def ofData (d : Data) : Attachment := if d.isVoid then .none else .given d

/-- What a place of a value holds: the kind of a failure, the failure, or its origin. -/
def partAt (d : Data) (place : Nat) : Except Failure Data :=
  match d with
  | .list items =>
    match items[place]? with
    | some part => .ok part
    | Option.none => .error (.noPosition .item)
  | .text s =>
    match s.toList[place]? with
    | some c => .ok (.text (String.singleton c))
    | Option.none => .error (.noPosition .character)
  | .map _ => .error (.missing (.entry (toString place)))
  | d => .error (.mismatch (.noItems d.kindName))

/-- Nothing is in the place of a part, which would have to have a feature. -/
def absent (d : Data) (place : Nat) (feature : String) : Except Failure Unit := do
  match ← partAt d place with
  | .null => .ok ()
  | part => .error (.lacking part.kindName feature)

/-- There is a place for the failure. -/
def checked : Attachment → Except Failure Unit
  | .given d => (fun _ => ()) <$> partAt d 1
  | _ => .ok ()

/-- The lines that tell about the failure. -/
def lines? : Attachment → Except Failure (Option String)
  | .none => .ok Option.none
  | .report r => .ok (some (traceLine (reportModule ++ "." ++ r.family.name) r.summary))
  | .raised kind text => .ok (some (traceLine kind text))
  | .given d => do
    absent d 2 "tb_frame"
    absent d 1 "__suppress_context__"
    .ok (some "NoneType: None")

/-- The failure as data, if there is one. -/
def toData? : Attachment → Except Failure (Option Data)
  | .none => .ok Option.none
  | .report r =>
    .ok (some (entry r.family.name r.summary
      (traceLine (reportModule ++ "." ++ r.family.name) r.summary)))
  | .raised kind text => .ok (some (entry kind text (traceLine kind text)))
  | .given d => do
    absent d 0 "__name__"
    .ok Option.none
where
  /-- Kind, text and lines. -/
  entry (kind text trace : String) : Data :=
    Data.ofPairs [("type", .text kind), ("message", .text text), ("traceback", .text trace)]

end Attachment

/-- What a call to the log says. -/
structure LogCall where
  level : Data
  logger : Data
  template : Data
  arguments : List Data := []
  path : Data := .text ""
  line : Data := .int 0
  function : Data := .null

/-- What is logged. -/
structure Record where
  level : Data
  levelName : Data
  logger : Data
  template : Data
  arguments : Arguments := .none
  file : Data
  module : Data
  line : Data
  function : Data
  extra : List (String × Data) := []
  failure : Attachment := .none

namespace Record

/-- The attributes that say what a record is about. -/
def contextKeys : List String := ["entity", "capability", "permutation"]

/-- The context that the attributes of a record give. -/
def ownContext (r : Record) : List (String × Data) :=
  contextKeys.filterMap fun key =>
    match r.extra.lookup key with
    | none => none
    | some .null => none
    | some value => some (key, value)

/-- A name that is not empty. -/
def nonEmpty (key : String) : Option String → List (String × Data)
  | none => []
  | some name => if name.isEmpty then [] else [(key, .text name)]

/-- The context that a report gives. -/
def reportContext (r : Report) : List (String × Data) :=
  [("error_code", .text r.code.label)] ++ nonEmpty "entity" r.site.entity ++
    nonEmpty "capability" r.site.capability ++
    (match r.site.permutation with
      | none => []
      | some states => [("permutation", Data.texts states)]) ++
    (if r.site.states.isEmpty then [] else [("states", Data.texts r.site.states)])

/-- Entries, and those of others whose keys are new. -/
def filledIn (own others : List (String × Data)) : List (String × Data) :=
  own ++ others.filter fun e => (own.lookup e.1).isNone

/-- **What the record is about.** -/
def context (r : Record) : List (String × Data) :=
  match r.failure with
  | .report report => filledIn r.ownContext (reportContext report)
  | _ => r.ownContext

/-- The name of the file that a path ends in. -/
def fileName (path : String) : String :=
  String.ofList ((path.toList.reverse.takeWhile (· != '/')).reverse)

/-- The name of a file without its last extension; dots in front do not start one. -/
def moduleName (file : String) : String :=
  let back := file.toList.reverse
  let extension := back.takeWhile (· != '.')
  let stem := (back.drop (extension.length + 1)).reverse
  if stem.all (· == '.') then file else String.ofList stem

/-- The file of a path, and its module. -/
def placeOf : Data → Data × Data
  | .text path => (.text (fileName path), .text (moduleName (fileName path)))
  | path => (path, .text "Unknown module")

/-- The name of a level. A name stands for its number. -/
def levelNameOf (level : Data) : Except Failure Data :=
  match level with
  | .text word =>
    match Level.ofName? word with
    | some i => .ok (.int i)
    | none => .ok (.text (Level.unnamed word))
  | level =>
    if level.isKey then
      match level.numericValue?.bind Level.standardName? with
      | some name => .ok (.text name)
      | none => .ok (.text (Level.unnamed level.display))
    else .error (.mismatch (.notHashable level.kindName))

/-- The record with an attribute of the given name. -/
def withAttribute (r : Record) (name : String) (value : Data) : Record :=
  match name with
  | "levelno" => { r with level := value }
  | "levelname" => { r with levelName := value }
  | "name" => { r with logger := value }
  | "msg" => { r with template := value }
  | "args" => { r with arguments := Arguments.ofData value }
  | "filename" => { r with file := value }
  | "module" => { r with module := value }
  | "lineno" => { r with line := value }
  | "funcName" => { r with function := value }
  | "exc_info" => { r with failure := Attachment.ofData value }
  | name => { r with extra := r.extra ++ [(name, value)] }

/-- The record of a call. Its attributes count more than what the call says. -/
def ofCall (c : LogCall) (attributes : List (String × Data)) (failure : Attachment) :
    Except Failure Record := do
  let levelName ← levelNameOf c.level
  let place := placeOf c.path
  let plain : Record :=
    { level := c.level, levelName, logger := c.logger, template := c.template
      arguments := Arguments.ofList c.arguments, file := place.1, module := place.2
      line := c.line, function := c.function, failure }
  .ok (attributes.foldl (fun r a => r.withAttribute a.1 a.2) plain)

/-- The number that the level counts as. -/
def rank (r : Record) : Int := r.level.numericValue?.getD 0

/-- The level of events. -/
def eventLevel : Int := 10

/-- The record of an event. -/
def ofEvent (e : Event) : Record where
  level := .int eventLevel
  levelName := .text (Level.name eventLevel)
  logger := .text e.logger
  template := .text e.message
  file := .text ""
  module := .text ""
  line := .int 0
  function := .null
  extra := e.context

/-- **A record keeps its own context.** -/
theorem lookup_filledIn {own others : List (String × Data)} {key : String} {value : Data}
    (h : own.lookup key = some value) : (filledIn own others).lookup key = some value := by
  simp [filledIn, List.lookup_append, h]

end Record
end Typestate
