import Typestate.Relation

/-! # Entities

The description of a stateful entity: its state groups and its capabilities. A capability says in
which states it is available and, if it returns no value, to which states it leads.

* `Condition`: a set of states and the relation they are tested by.
* `TransitionRule`: a target state, and the condition under which a capability leads there.
* `Capability.make`, `Entity.make`: refuse an empty name. -/

namespace Typestate

/-- A set of states under a relation. -/
structure Condition where
  states : NameSet
  relation : RelationRef
deriving DecidableEq

namespace Condition

/-- The condition over the states of a list. -/
def of (states : List String) (relation : RelationRef) : Condition :=
  ⟨NameSet.ofList states, relation⟩

/-- The condition as it is shown in messages. -/
def display (c : Condition) : String :=
  Text.upper c.relation.identifier ++ "(" ++ Text.commaList c.states.toList ++ ")"

end Condition

/-- The move to a target state under a condition. -/
structure TransitionRule where
  target : String
  condition : Condition
deriving DecidableEq

/-- The move to a target state under no condition: the conjunction of no states. -/
def TransitionRule.always (target : String) : TransitionRule :=
  ⟨target, Condition.of [] (.builtin .and)⟩

/-- An argument of a capability. -/
structure Parameter where
  name : String
  type : String
deriving DecidableEq

/-- An operation of an entity. -/
structure Capability where
  name : String
  /-- The type of the returned value; without one the capability moves between states. -/
  returns : Option String
  parameters : List Parameter
  typeParameters : List String
  availableForAll : Bool
  /-- The capability is available if any of these conditions holds. -/
  availability : List Condition
  transitions : List TransitionRule
deriving DecidableEq

namespace Capability

/-- A capability whose name is not empty. -/
def make (c : Capability) : Except Failure Capability :=
  if c.name.isEmpty then .error (.refused .emptyCapabilityName) else .ok c

/-- The capability returns no value. -/
def isMutation (c : Capability) : Bool := c.returns.isNone

end Capability

/-- A stateful entity. -/
structure Entity where
  name : String
  groups : List StateGroup
  capabilities : List Capability
  typeParameters : List String
  /-- The namespace of the generated wrappers. -/
  module : Option String
deriving DecidableEq

namespace Entity

/-- An entity whose name is not empty. -/
def make (e : Entity) : Except Failure Entity :=
  if e.name.isEmpty then .error (.refused .emptyEntityName) else .ok e

/-- The capability of a name. -/
def capability (e : Entity) (name : String) : Except Failure Capability :=
  match e.capabilities.find? fun c => c.name = name with
  | some c => .ok c
  | none => .error (.missing (.capability name (e.capabilities.map (·.name))))

end Entity
end Typestate
