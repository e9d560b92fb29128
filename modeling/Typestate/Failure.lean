import Typestate.Report
import Typestate.Text.Utf8

/-! # Failures

Everything that an operation of the library can fail with. An inconsistent or unreadable
description is a `report`; the other constructors are failures of the caller or of the input as
such: a value that is refused, a look-up that finds nothing, a position that is not there, a number
that is too large, a value of the wrong kind.

Each group has one `message` function, which holds the wording. -/

namespace Typestate

/-- A value that is refused. -/
inductive Refusal where
  | emptyGroupName
  | emptyCapabilityName
  | emptyEntityName
  | duplicateGroups (names : List String)
  | emptyIdentifier
  | identifierTaken (key : String)
  | construction (text : String)
  | plainResult (member : String)
  | calendar (fault : CalendarFault)
  | numeral (base : Nat) (shown : String)
  | longNumeral (digits : Nat)
  | fraction (shown : String)
  | codePoint
  | unknownLevel (level : String)
  | unknownDirective (directive : Char) (position : Nat)
  | openDirective
  | openKey
  | wideField
  | longField
  | wholeOfNan
deriving DecidableEq

/-- The start of a text, as far as it is shown in messages. -/
def shortened (s : String) : String := String.ofList (s.toList.take 200)

/-- A character in a message, where only ASCII ones are shown. -/
def shownDirective (c : Char) : String :=
  if 31 ≤ c.toNat ∧ c.toNat < 127 then String.singleton c else "?"

/-- What is said about a refused value. -/
def Refusal.message : Refusal → String
  | .emptyGroupName => "State group name cannot be empty"
  | .emptyCapabilityName => "Capability name cannot be empty"
  | .emptyEntityName => "Entity name cannot be empty"
  | .duplicateGroups names => "Duplicate state group names: " ++ Text.quotedList names
  | .emptyIdentifier => "Relation identifier cannot be empty"
  | .identifierTaken key => "Relation '" ++ key ++ "' is already registered"
  | .construction text => text
  | .plainResult member => "'" ++ member ++ "' returns a value, not a wrapper"
  | .calendar fault => fault.message
  | .numeral base shown =>
    "invalid literal for int() with base " ++ toString base ++ ": " ++ shortened (Text.quoted shown)
  | .longNumeral digits =>
    "Exceeds the limit (4300 digits) for integer string conversion: value has " ++
      toString digits ++
      " digits; use sys.set_int_max_str_digits() to increase the limit"
  | .fraction shown => "could not convert string to float: " ++ Text.quoted shown
  | .codePoint => "chr() arg not in range(0x110000)"
  | .unknownLevel level => "Unknown level: " ++ Text.quoted level
  | .unknownDirective directive position =>
    "unsupported format character '" ++ shownDirective directive ++ "' (0x" ++
      String.ofList (Nat.toDigits 16 directive.toNat) ++ ") at index " ++ toString position
  | .openDirective => "incomplete format"
  | .openKey => "incomplete format key"
  | .wideField => "width too big"
  | .longField => "precision too big"
  | .wholeOfNan => "cannot convert float NaN to integer"

/-- A look-up that finds nothing. -/
inductive Missing where
  | group (name : String) (available : List String)
  | entry (name : String)
  | capability (name : String) (available : List String)
  | member (name owner : String) (available : List String)
  | wrapper (name : String)
deriving DecidableEq

/-- What is said about a look-up that finds nothing. -/
def Missing.message : Missing → String
  | .group name available =>
    "State group '" ++ name ++ "' not found. Available: " ++ Text.quotedList available
  | .entry name => name
  | .capability name available =>
    "Capability '" ++ name ++ "' not found. Available: " ++ Text.quotedList available
  | .member name owner available =>
    "'" ++ name ++ "' is not available in " ++ owner ++ ". Available: " ++
      Text.quotedList available
  | .wrapper name => "No wrapper named '" ++ name ++ "' in the compilation unit"

/-- The ways to use a position that is not there. -/
inductive Access where
  | reading
  | replacing
  /-- An item of a list. -/
  | item
  /-- The first character of an empty text. -/
  | character
  /-- A number that is no position of anything. -/
  | huge
deriving DecidableEq

/-- What is said about a position that is not there. -/
def Access.message : Access → String
  | .reading => "tuple index out of range"
  | .replacing => "list assignment index out of range"
  | .item => "list index out of range"
  | .character => "string index out of range"
  | .huge => "cannot fit 'int' into an index-sized integer"

/-- A number that is beyond what there is room for. -/
inductive Excess where
  | code
  | size
  | codePoint
  | infinity
  | double
  | precision
deriving DecidableEq

/-- What is said about a number that there is no room for. -/
def Excess.message : Excess → String
  | .code => "Python int too large to convert to C int"
  | .size => "Python int too large to convert to C ssize_t"
  | .codePoint => "%c arg not in range(0x110000)"
  | .infinity => "cannot convert float infinity to integer"
  | .double => "int too large to convert to float"
  | .precision => "precision too large"

/-- A value of the wrong kind. -/
inductive Mismatch where
  | keysNotText
  /-- Arguments by name are given as something that is no mapping. -/
  | notKeyed (kind : String)
  | repeatedArgument (function name : String)
  | notLevel (shown : String)
  | missingArgument
  | extraArgument
  | notNumber (letter : Char) (kind : String)
  | notWhole (letter : Char) (kind : String)
  | notReal (kind : String)
  | notCharacter
  | notWidth
  /-- A template names its arguments, and they have no names. -/
  | notNamed
  | notPosition
  | notSearchable
  | notPadded (kind : String)
  | notHashable (kind : String)
  | noItems (kind : String)
deriving DecidableEq

/-- What is said about a value of the wrong kind. -/
def Mismatch.message : Mismatch → String
  | .keysNotText => "keywords must be strings"
  | .notKeyed kind =>
    "stategen.config.settings.GeneratorConfig() argument after ** must be a mapping, not " ++ kind
  | .repeatedArgument function name =>
    function ++ "() got multiple values for keyword argument '" ++ name ++ "'"
  | .notLevel shown => "Level not an integer or a valid string: " ++ shown
  | .missingArgument => "not enough arguments for format string"
  | .extraArgument => "not all arguments converted during string formatting"
  | .notNumber letter kind =>
    "%" ++ String.singleton letter ++ " format: a real number is required, not " ++ kind
  | .notWhole letter kind =>
    "%" ++ String.singleton letter ++ " format: an integer is required, not " ++ kind
  | .notReal kind => "must be real number, not " ++ kind
  | .notCharacter => "%c requires int or char"
  | .notWidth => "* wants int"
  | .notNamed => "format requires a mapping"
  | .notSearchable => "expected string or bytes-like object, got 'list'"
  | .notPosition => "list indices must be integers or slices, not str"
  | .notPadded kind => "unsupported format string passed to " ++ kind ++ ".__format__"
  | .notHashable kind => "unhashable type: '" ++ kind ++ "'"
  | .noItems kind => "'" ++ kind ++ "' object is not subscriptable"

/-- Why an operation fails. -/
inductive Failure where
  | report (r : Report)
  | refused (r : Refusal)
  | missing (m : Missing)
  | noPosition (a : Access)
  | beyond (e : Excess)
  | mismatch (m : Mismatch)
  | lacking (kind feature : String)
  /-- There is no room for what is to be made. -/
  | exhausted
  | schema (issues : List Schema.Issue)
  | malformed
  | undecodable (fault : Text.Utf8.Fault)
  | directory (path : String)

/-- What a failure says. -/
def Failure.message : Failure → String
  | .report r => r.summary
  | .refused r => r.message
  | .missing m => m.message
  | .noPosition a => a.message
  | .beyond e => e.message
  | .mismatch m => m.message
  | .lacking kind feature => "'" ++ kind ++ "' object has no attribute '" ++ feature ++ "'"
  | .exhausted => ""
  | .schema issues => (Cause.schema issues).text
  | .malformed => Cause.malformed.text
  | .undecodable fault => fault.message
  | .directory path => "[Errno 21] Is a directory: " ++ Text.quoted path

/-- The report of a draft in which everything may be given. It is not for the draft to say whether
an inconsistency goes away. -/
def Draft.checked (d : Draft) : Except Failure Report :=
  if d.family = .inconsistency ∧ d.recoverable.isSome then
    .error
      (.mismatch (.repeatedArgument "stategen.errors.base.StateGenError.__init__" "recoverable"))
  else .ok d.report

end Typestate
