import Typestate.Names
import Typestate.Failure

/-! # State groups

A state group is a named list of mutually exclusive states. A `GroupMap` holds the groups of one
entity in declaration order, which is also the order of the states inside a permutation; the names
of its groups are pairwise different.

* `GroupMap.ofGroups`, `GroupMap.ofPairs`: the map of some groups, refused if a name repeats.
* `groupOf?`: the first group that declares a state; `indexOf`: the position of a group.
* `duplicateStates`, `validate`: state names that occur more than once over all groups, and the
  report about them. -/

namespace Typestate

/-- A named list of mutually exclusive states. -/
structure StateGroup where
  name : String
  states : List String
deriving DecidableEq

namespace StateGroup

/-- A group with a name that is not empty. -/
def make (name : String) (states : List String) : Except Failure StateGroup :=
  if name.isEmpty then .error (.refused .emptyGroupName) else .ok ⟨name, states⟩

/-- The number of states. -/
def size (g : StateGroup) : Nat := g.states.length

/-- The group as it is shown in messages. -/
def display (g : StateGroup) : String :=
  "StateGroup(" ++ Text.quoted g.name ++ ", states=" ++ Text.quotedList g.states ++ ")"

end StateGroup

/-- The groups of an entity, in declaration order. -/
structure GroupMap where
  groups : List StateGroup
  distinctNames : (groups.map (·.name)).Nodup

namespace GroupMap

/-- The map of the given groups. -/
def ofGroups (groups : List StateGroup) : Except Failure GroupMap :=
  if h : (groups.map (·.name)).Nodup then .ok ⟨groups, h⟩
  else .error (.refused (.duplicateGroups (Names.sorted (Names.repeated (groups.map (·.name))))))

/-- The map of groups given by name and states; an empty name is refused first. -/
def ofPairs (pairs : List (String × List String)) : Except Failure GroupMap := do
  let groups ← pairs.mapM fun p => StateGroup.make p.1 p.2
  ofGroups groups

variable (m : GroupMap)

/-- The names of the groups. -/
def names : List String := m.groups.map (·.name)

/-- The number of groups. -/
def size : Nat := m.groups.length

/-- The state lists of the groups. -/
def stateLists : List (List String) := m.groups.map (·.states)

/-- The states of all groups, one group after the other. -/
def allStates : List String := m.groups.flatMap (·.states)

/-- The number of permutations: the product of the sizes, and zero if there is no group. -/
def total : Nat := if m.groups.isEmpty then 0 else (m.groups.map StateGroup.size).foldr (· * ·) 1

/-- The group of a name. -/
def find? (name : String) : Option StateGroup := m.groups.find? fun g => g.name = name

/-- There is a group of that name. -/
def hasGroup (name : String) : Bool := (m.find? name).isSome

/-- The states of a group, by plain look-up. -/
def item (name : String) : Except Failure (List String) :=
  match m.find? name with
  | some g => .ok g.states
  | none => .error (.missing (.entry name))

/-- The states of a group; the failure lists the groups there are. -/
def statesOf (name : String) : Except Failure (List String) :=
  match m.find? name with
  | some g => .ok g.states
  | none => .error (.missing (.group name m.names))

/-- The position of a group. -/
def indexOf? (name : String) : Option Nat := m.groups.findIdx? fun g => g.name = name

/-- The position of a group, which has to be there. -/
def indexOf (name : String) : Except Failure Nat :=
  match m.indexOf? name with
  | some i => .ok i
  | none => .error (.missing (.entry name))

/-- The first group that declares a state. -/
def groupOf? (state : String) : Option String :=
  (m.groups.find? fun g => state ∈ g.states).map (·.name)

/-- Some group declares the state. -/
def declares (state : String) : Bool := m.groups.any fun g => state ∈ g.states

/-- The state names that occur more than once, in the order of first occurrence. -/
def duplicateStates : List String := Names.repeated m.allStates

/-- The report about repeated state names. -/
def duplicateReport (entity : Option String) (states : List String) : Report :=
  Report.inconsistent .duplicateState
    ("A state name cannot appear twice, neither in the same group nor in a different one. " ++
      "Problematic states: " ++ Text.commaList states)
    { entity := entity, states := states }

/-- Refuses a map in which a state name occurs more than once. -/
def validate (entity : Option String) : Except Failure Unit :=
  if m.duplicateStates.isEmpty then .ok ()
  else .error (.report (duplicateReport entity m.duplicateStates))

/-- The map as it is shown in messages. -/
def display : String :=
  "StateGroupMap([" ++
    Text.commaList (m.groups.map fun g => g.name ++ "(" ++ toString g.size ++ ")") ++
    "], total=" ++ toString m.total ++ ")"

/-! ### Laws of the look-ups -/

/-- **A map is made of any groups with different names.** -/
theorem ofGroups_eq_ok {groups : List StateGroup} (h : (groups.map (·.name)).Nodup) :
    ofGroups groups = .ok ⟨groups, h⟩ := by
  simp [ofGroups, h]

theorem declares_iff {state : String} : m.declares state = true ↔ state ∈ m.allStates := by
  simp [declares, allStates]

theorem groupOf?_isSome {state : String} : (m.groupOf? state).isSome = m.declares state := by
  rw [Bool.eq_iff_iff]
  simp [groupOf?, declares]

end GroupMap
end Typestate
