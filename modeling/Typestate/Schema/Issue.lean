import Typestate.Data.Literal

/-! # Schema issues

What does not fit a schema, and where. An `Issue` is a path into the data and a reason; reasons
carry what their message needs.

* `Step.ofKey`: the step that a mapping key is. Whole numbers and truth values are written as
  integers, other scalars by their literal.
* `Reason.label`, `Reason.message`: the short and the long name of a reason. -/

namespace Typestate.Schema

/-- One step of a path. -/
inductive Step where
  | key (name : String)
  | index (position : Int)
deriving DecidableEq

/-- Integers that a path can hold. -/
def isPathInt (i : Int) : Bool := -9223372036854775808 ≤ i && i < 9223372036854775808

/-- The step to the value of a mapping key. -/
def Step.ofKey : Data → Step
  | .text s => .key s
  | .bool b => .index (if b then 1 else 0)
  | .int i => if isPathInt i then .index i else .key (toString i)
  | d => .key d.literal

/-- Why a value does not fit. -/
inductive Reason where
  | missing
  | unexpected
  | notText
  | undecodable
  | tooShort
  | notList
  | notRecord (record : String)
  | notBool
  | unreadableBool
  | notInt
  | unreadableInt
  | fractionalInt
  | hugeInt
  | notFinite
  | tooSmall (least : Int)
  | keyNotText
  | rejected (text : String)
deriving DecidableEq

/-- A reason and the path to the value it is about. -/
structure Issue where
  path : List Step
  reason : Reason
deriving DecidableEq

/-- The short name of a reason. -/
def Reason.label : Reason → String
  | .missing => "missing"
  | .unexpected => "extra_forbidden"
  | .notText => "string_type"
  | .undecodable => "string_unicode"
  | .tooShort => "string_too_short"
  | .notList => "list_type"
  | .notRecord _ => "model_type"
  | .notBool => "bool_type"
  | .unreadableBool => "bool_parsing"
  | .notInt => "int_type"
  | .unreadableInt => "int_parsing"
  | .fractionalInt => "int_from_float"
  | .hugeInt => "int_parsing_size"
  | .notFinite => "finite_number"
  | .tooSmall _ => "greater_than_equal"
  | .keyNotText => "invalid_key"
  | .rejected _ => "value_error"

/-- What is said about a value. -/
def Reason.message : Reason → String
  | .missing => "Field required"
  | .unexpected => "Extra inputs are not permitted"
  | .notText => "Input should be a valid string"
  | .undecodable =>
    "Input should be a valid string, unable to parse raw data as a unicode string"
  | .tooShort => "String should have at least 1 character"
  | .notList => "Input should be a valid list"
  | .notRecord record => "Input should be a valid dictionary or instance of " ++ record
  | .notBool => "Input should be a valid boolean"
  | .unreadableBool => "Input should be a valid boolean, unable to interpret input"
  | .notInt => "Input should be a valid integer"
  | .unreadableInt => "Input should be a valid integer, unable to parse string as an integer"
  | .fractionalInt => "Input should be a valid integer, got a number with a fractional part"
  | .hugeInt => "Unable to parse input string as an integer, exceeded maximum size"
  | .notFinite => "Input should be a finite number"
  | .tooSmall least => "Input should be greater than or equal to " ++ toString least
  | .keyNotText => "Keys should be strings"
  | .rejected text => "Value error, " ++ text

/-- The issue seen from one step further out. -/
def Issue.under (step : Step) (i : Issue) : Issue := { i with path := step :: i.path }

theorem Issue.path_under (step : Step) (i : Issue) : (i.under step).path = step :: i.path := rfl

theorem Issue.reason_under (step : Step) (i : Issue) : (i.under step).reason = i.reason := rfl

end Typestate.Schema
