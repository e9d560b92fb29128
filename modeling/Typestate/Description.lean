import Typestate.Description.Schema
import Typestate.Trace
import Typestate.Yaml.File

/-! # Loading descriptions

An entity description is loaded from data, from a document, or from a file with a document.

* `ofData`: what does not fit the schema is reported together, in one report.
* `ofText`: a malformed document is reported; a scalar that denotes nothing under its tag is refused
  without a report.
* `ofFile`: every report names the path. -/

namespace Typestate.Description

/-- The report about a description that cannot be used; it names the file, if there is one. -/
def unreadable (origin : Option String) (message : String) (cause : Option Cause) : Report :=
  Draft.report
    { family := .unreadable, message := some message, cause := cause,
      extra := match origin with
        | none => []
        | some path => [("source", .text path)] }

/-- The entity that the data describes. The message about issues is the first line of the whole
message; the account of the issues that the schema library writes below it is left out. -/
def ofData (origin : Option String) (d : Data) : Except Failure Entity :=
  match d with
  | .map entries => match entity (.map entries) with
    | .valid e => .ok e
    | .invalid issues =>
      .error (.report (unreadable origin
        ("Invalid description: " ++ toString issues.length ++ " validation error(s)")
        (some (.schema issues))))
  | other =>
    .error (.report (unreadable origin
      ("Description must be a mapping, got " ++ other.kindName) none))

/-- The failure that a fault of a document leads to. What the reader itself says about a malformed
document, and would stand behind the message, is left out. -/
def documentFailure (origin : Option String) (fault : Yaml.Fault) : Failure :=
  match fault.failure with
  | .malformed => .report (unreadable origin "Failed to parse description" (some .malformed))
  | .undecodable fault =>
    .report (unreadable origin ("Failed to parse description: " ++ fault.message)
      (some (.raised "UnicodeDecodeError" fault.message)))
  | failure => failure

/-- The entity that a document describes. -/
def ofText (document : String) : Except Failure Entity :=
  match Yaml.read document.toList with
  | .ok d => ofData none d
  | .error fault => .error (documentFailure none fault)

/-- The failure that a fault of a file leads to. -/
def fileFailure (path : String) : Yaml.File.Fault → Failure
  | .absent => .report (unreadable (some path) ("Description file not found: " ++ path) none)
  | .directory =>
    let text := (Failure.directory path).message
    .report (unreadable (some path) ("Failed to read description: " ++ text)
      (some (.raised "IsADirectoryError" text)))
  | .document fault => documentFailure (some path) fault

/-- The entity that the document at a path describes. -/
def ofFile (path : String) (file : Yaml.File) : Except Failure Entity :=
  match file.read with
  | .ok d => ofData (some path) d
  | .error fault => .error (fileFailure path fault)

/-- The event of a loaded description. -/
def loadedEvent (e : Entity) : Event := .loaded e.name e.groups.length e.capabilities.length

/-- A loaded description, with the event that says so. -/
def traced (loaded : Except Failure Entity) : Traced Entity := do
  let e ← Traced.ofExcept loaded
  Traced.emit (loadedEvent e)
  pure e

theorem outcome_traced (loaded : Except Failure Entity) : (traced loaded).outcome = loaded := by
  cases loaded <;> rfl

end Typestate.Description
