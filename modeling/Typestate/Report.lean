import Typestate.Schema.Issue

/-! # Reports

A report says what is wrong with a description: a code, a message, the place, and what to do.

* `Code`: the codes, their categories and the advice for each.
* `Site`: the entity, capability and permutation at which something was found, the states
  involved, and further entries.
* `Report`: a report; `Draft` is a report with parts left out, and `Draft.report` fills them in by
  the rules of the family that the report belongs to.
* `Report.summary`, `Report.details`, `Report.toData`: the one-line form, the long form and the
  form as data. -/

namespace Typestate

/-- What a report is about. -/
inductive Code where
  | duplicateState
  | invalidRelation
  | contradictoryCondition
  | conflictingAvailability
  | unknownTarget
  | ambiguousTransition
  | danglingReference
  | nameCollision
  | invalidDescription
  | unknown
deriving DecidableEq

namespace Code

/-- The code as it is written. -/
def label : Code → String
  | .duplicateState => "E101"
  | .invalidRelation => "E102"
  | .contradictoryCondition => "E103"
  | .conflictingAvailability => "E104"
  | .unknownTarget => "E105"
  | .ambiguousTransition => "E106"
  | .danglingReference => "E107"
  | .nameCollision => "E108"
  | .invalidDescription => "E201"
  | .unknown => "E999"

/-- All codes. -/
def all : List Code :=
  [.duplicateState, .invalidRelation, .contradictoryCondition, .conflictingAvailability,
   .unknownTarget, .ambiguousTransition, .danglingReference, .nameCollision, .invalidDescription,
   .unknown]

/-- The code that is written so. -/
def ofLabel? (s : String) : Option Code := all.find? fun c => c.label == s

/-- Whether the description contradicts itself, could not be read, or neither. -/
def category : Code → String
  | .invalidDescription => "input"
  | .unknown => "unknown"
  | _ => "state"

/-- What to do about an inconsistency with this code. -/
def advice : Code → List String
  | .duplicateState =>
    ["Give every state a name that is unique across all groups",
     "Prefix shared names with their group, e.g. 'DoorOpen' and 'LidOpen'"]
  | .invalidRelation =>
    ["Use one of the built-in relations: 'and', 'or', 'xor'",
     "Register custom relations with RelationRegistry.register() before generating"]
  | .contradictoryCondition =>
    ["An AND condition can name at most one state per group",
     "Split the condition into several availability rules, or use 'or'"]
  | .conflictingAvailability =>
    ["Remove either available_for_all or the specific availability rules"]
  | .unknownTarget =>
    ["Check the transition target for typos",
     "Declare the target state in one of the entity's groups"]
  | .ambiguousTransition =>
    ["Make the transition conditions mutually exclusive",
     "A capability can move each group to at most one state per permutation"]
  | .nameCollision =>
    ["Rename states so that no two combinations concatenate to the same name",
     "Avoid state names that are prefixes or suffixes of states in neighbouring groups"]
  | .danglingReference | .invalidDescription | .unknown => []

/-- **Codes are told apart by their labels.** -/
theorem ofLabel?_label (c : Code) : ofLabel? c.label = some c := by cases c <;> decide

end Code

/-! ### The place -/

/-- Where something was found. -/
structure Site where
  entity : Option String := none
  capability : Option String := none
  permutation : Option (List String) := none
  states : List String := []
  extra : List (String × Data) := []

namespace Site

/-- A part of the place that is named, with its label; empty names are left out. -/
def namedPart (label : String) : Option String → List String
  | none => []
  | some name => if name.isEmpty then [] else [label ++ "=" ++ name]

/-- The parts of the place, outermost first. -/
def parts (s : Site) : List String :=
  namedPart "entity" s.entity ++ namedPart "capability" s.capability ++
    match s.permutation with
    | none => []
    | some states => ["permutation=[" ++ Text.commaList states ++ "]"]

/-- The place in words. -/
def location (s : Site) : String :=
  if s.parts.isEmpty then "unknown location" else String.intercalate " > " s.parts

/-- An entry for a name, if there is one. -/
def namedEntry (key : String) : Option String → List (String × Data)
  | none => []
  | some name => [(key, .text name)]

/-- The entries of the place; what is empty is left out, except for a permutation. -/
def entries (s : Site) : List (String × Data) :=
  namedEntry "entity_name" s.entity ++ namedEntry "capability_name" s.capability ++
    (match s.permutation with
      | none => []
      | some states => [("permutation", Data.texts states)]) ++
    (if s.states.isEmpty then [] else [("states", Data.texts s.states)]) ++
    (if s.extra.isEmpty then [] else [("extra", Data.ofPairs s.extra)])

/-- The place as data. -/
def toData (s : Site) : Data := Data.ofPairs s.entries

/-- An entry set among the further entries. -/
def setExtra (s : Site) (key : String) (value : Data) : Site :=
  let rec put : List (String × Data) → List (String × Data)
    | [] => [(key, value)]
    | (k, v) :: rest => if k = key then (k, value) :: rest else (k, v) :: put rest
  { s with extra := put s.extra }

end Site

/-! ### Reports -/

/-- The failure behind a report. -/
inductive Cause where
  | schema (issues : List Schema.Issue)
  | malformed
  | raised (kind text : String)

/-- The kind of the failure. -/
def Cause.kind : Cause → String
  | .schema _ => "ValidationError"
  | .malformed => "YAMLError"
  | .raised kind _ => kind

/-- What the failure says. -/
def Cause.text : Cause → String
  | .schema issues => toString issues.length ++ " validation error(s)"
  | .malformed => "malformed document"
  | .raised _ text => text

/-- The families of reports: general ones, inconsistent descriptions, unreadable descriptions. -/
inductive Family where
  | general
  | inconsistency
  | unreadable
deriving DecidableEq

namespace Family

/-- The name of the family in written reports. -/
def name : Family → String
  | .general => "StateGenError"
  | .inconsistency => "InvalidStateRepresentation"
  | .unreadable => "DescriptionLoadError"

/-- The message of a report that is given none. -/
def defaultMessage : Family → String
  | .general => "An unexpected error occurred"
  | .inconsistency => "Invalid state representation"
  | .unreadable => "Failed to load entity description"

/-- The code of a report that is given none. -/
def defaultCode : Family → Code
  | .unreadable => .invalidDescription
  | _ => .unknown

/-- The advice of a report that is given none; an inconsistency goes by the code it is given. -/
def defaultAdvice : Family → Option Code → List String
  | .general, _ => []
  | .inconsistency, code => (code.map Code.advice).getD []
  | .unreadable, _ =>
    ["Check that the file exists and is valid YAML or JSON",
     "Compare the document against the documented description schema"]

/-- Whether trying again can help: never for an inconsistency, only if said so for an unreadable
description. It may be given as unknown. -/
def recoverable : Family → Option (Option Bool) → Option Bool
  | .general, given => given.getD (some true)
  | .inconsistency, _ => some false
  | .unreadable, given => given.getD (some false)

end Family

/-- What is wrong, where, and what to do. -/
structure Report where
  family : Family
  code : Code
  message : String
  site : Site
  cause : Option Cause
  /-- Whether trying again can help, if that is known. -/
  recoverable : Option Bool
  advice : List String

/-- A report with parts left out. -/
structure Draft where
  family : Family
  message : Option String := none
  code : Option Code := none
  site : Site := {}
  cause : Option Cause := none
  recoverable : Option (Option Bool) := none
  advice : Option (List String) := none
  extra : List (String × Data) := []

/-- The report of a draft. An empty message counts as none. -/
def Draft.report (d : Draft) : Report where
  family := d.family
  code := d.code.getD d.family.defaultCode
  message := match d.message with
    | none => d.family.defaultMessage
    | some m => if m.isEmpty then d.family.defaultMessage else m
  site := d.extra.foldl (fun s e => s.setExtra e.1 e.2) d.site
  cause := d.cause
  recoverable := d.family.recoverable d.recoverable
  advice := d.advice.getD (d.family.defaultAdvice d.code)

namespace Report

/-- An inconsistency with a code, a message and a place. -/
def inconsistent (code : Code) (message : String) (site : Site) : Report :=
  Draft.report
    { family := .inconsistency, message := some message, code := some code, site := site }

/-- The code and the message. -/
def headline (r : Report) : String := "[" ++ r.code.label ++ "] " ++ r.message

/-- Code, message and place on one line. -/
def summary (r : Report) : String :=
  if r.site.parts.isEmpty then r.headline else r.headline ++ " | at " ++ r.site.location

/-- The lines of the long form. -/
def detailLines (r : Report) : List String :=
  ["Error [" ++ r.code.label ++ "]: " ++ r.message, ""] ++
    (if r.site.parts.isEmpty then [] else ["Location: " ++ r.site.location]) ++
    (if r.site.states.isEmpty then [] else ["States: " ++ Text.commaList r.site.states]) ++
    (match r.cause with
      | none => []
      | some c => ["Caused by: " ++ c.kind ++ ": " ++ c.text]) ++
    (if r.advice.isEmpty then [] else "" :: "Suggestions:" :: r.advice.map ("  - " ++ ·))

/-- The long form. -/
def details (r : Report) : String := String.intercalate "\n" r.detailLines

/-- Whether trying again can help, as data. -/
def recoverableData (r : Report) : Data :=
  match r.recoverable with
  | none => .null
  | some b => .bool b

/-- The report as data. -/
def toData (r : Report) : Data :=
  Data.ofPairs
    [("error_code", .text r.code.label),
     ("error_type", .text r.family.name),
     ("message", .text r.message),
     ("recoverable", r.recoverableData),
     ("suggestions", Data.texts r.advice),
     ("context", r.site.toData),
     ("cause", match r.cause with | none => .null | some c => .text c.text)]

end Report
end Typestate
