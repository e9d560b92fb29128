import Typestate.Schema.Checked
import Typestate.Entity

/-! # The schema of a description

The shape that the data of an entity description must have: a mapping with a name, and lists of
groups and capabilities, each with its own fields. Every check returns the value described.

* `group`, `parameter`, `condition`, `transition`, `capability`, `entity`: one check for each kind
  of record. A condition may be a bare list of states.
* `returnType`: the type of a result; empty, `none` and `void` mean that there is none. -/

namespace Typestate.Description

open Schema

/-- Texts in a list, none if left out. -/
def textList (name : String) (entries : List (Data × Data)) : Checked (List String) :=
  optional name [] (listOf text) entries

/-- A state group. -/
def group (d : Data) : Checked StateGroup :=
  (entriesOf "StateGroupSchema" d).andThen fun entries =>
    StateGroup.mk <$> required "name" nonEmptyText entries
      <*> textList "states" entries
      <* onlyKeys ["name", "states"] entries

/-- The relation of a condition. -/
def relation (default : RelationKind) (entries : List (Data × Data)) : Checked RelationRef :=
  optional "relation" (.builtin default) (fun d => RelationRef.ofText <$> nonEmptyText d) entries

/-- A condition that is written as a record. -/
def conditionRecord (d : Data) : Checked Condition :=
  (entriesOf "ConditionSchema" d).andThen fun entries =>
    Condition.of <$> textList "states" entries
      <*> relation .or entries
      <* onlyKeys ["states", "relation"] entries

/-- A condition; a bare list or pair is its states. -/
def condition : Data → Checked Condition
  | .list states => conditionRecord (Data.ofPairs [("states", .list states)])
  | .pair first second => conditionRecord (Data.ofPairs [("states", .list [first, second])])
  | d => conditionRecord d

/-- A transition rule. -/
def transition (d : Data) : Checked TransitionRule :=
  (entriesOf "TransitionSchema" d).andThen fun entries =>
    (fun target states relation => ⟨target, Condition.of states relation⟩)
      <$> required "target" nonEmptyText entries
      <*> textList "when" entries
      <*> relation .and entries
      <* onlyKeys ["target", "when", "relation"] entries

/-- A parameter of a capability. -/
def parameter (d : Data) : Checked Parameter :=
  (entriesOf "ParameterSchema" d).andThen fun entries =>
    Parameter.mk <$> required "name" nonEmptyText entries
      <*> requiredEither "type" "type_name" nonEmptyText entries
      <* onlyKeys ["name", eitherKey "type" "type_name" entries] entries

/-- The text means that there is no result. -/
def isVoidWord (s : String) : Bool := ["", "none", "void"].contains (Text.lower (Text.strip s))

/-- The type of a result, if there is a result. -/
def returnType : Data → Checked (Option String)
  | .text s => if isVoidWord s then .valid none else .valid (some s)
  | d => optionalText d

/-- No two of the items have the same name; `what` says what they are. -/
def distinctNames {α : Type} (what : String) (name : α → String) (items : List α) :
    Checked (List α) :=
  if (items.map name).Nodup then .valid items
  else Checked.fault (.rejected ("Duplicate " ++ what ++ " names: " ++
    Text.quotedList (Names.sorted (Names.repeated (items.map name)))))

/-- A list of items of which no two have the same name. -/
def uniquelyNamed {α : Type} (what : String) (name : α → String)
    (check : Data → Checked α) (d : Data) : Checked (List α) :=
  (listOf check d).andThen (distinctNames what name)

/-- A capability. -/
def capability (d : Data) : Checked Capability :=
  (entriesOf "CapabilitySchema" d).andThen fun entries =>
    Capability.mk <$> required "name" nonEmptyText entries
      <*> optional "returns" none returnType entries
      <*> optional "parameters" [] (listOf parameter) entries
      <*> textList "type_parameters" entries
      <*> optional "available_for_all" false truth entries
      <*> optional "available_for" [] (listOf condition) entries
      <*> optional "transitions" [] (listOf transition) entries
      <* onlyKeys ["name", "returns", "parameters", "type_parameters", "available_for_all",
          "available_for", "transitions"] entries

/-- **A description of an entity.** -/
def entity (d : Data) : Checked Entity :=
  (entriesOf "EntitySchema" d).andThen fun entries =>
    (fun name module typeParameters groups capabilities =>
        ⟨name, groups, capabilities, typeParameters, module⟩)
      <$> required "name" nonEmptyText entries
      <*> optional "module" none optionalText entries
      <*> textList "type_parameters" entries
      <*> optional "groups" [] (uniquelyNamed "state group" StateGroup.name group) entries
      <*> optional "capabilities" [] (uniquelyNamed "capability" Capability.name capability) entries
      <* onlyKeys ["name", "module", "type_parameters", "groups", "capabilities"] entries

end Typestate.Description
