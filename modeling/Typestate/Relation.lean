import Typestate.Group
import Typestate.Text.LetterCase

/-! # Relations

A relation decides whether a permutation satisfies a set of states. Anyone can add relations, so a
`Relation` is a name and a function, which may fail; three are built in.

* `Relation.disjunction` (or): some wanted state is in the permutation.
* `Relation.exclusive` (xor): exactly one wanted state is.
* `Relation.conjunction` (and): every wanted state is. A group that has two of the wanted states
  makes this impossible, and is reported whatever the permutation.
* `RelationRef`: how a condition names its relation: one of the three kinds, or any other text. A
  text that names a kind, in any letter case, is always the kind. -/

namespace Typestate

/-- A test of the wanted states against a permutation of some groups. -/
structure Relation where
  name : String
  holds : (groups : GroupMap) → (permutation wanted : List String) → Except Failure Bool

namespace Relation

/-- The number of different wanted states that are in the permutation. -/
def countMatches (permutation wanted : List String) : Nat :=
  ((Names.distinct wanted).filter (· ∈ permutation)).length

/-- The wanted states among the states of a group, in the order of the group. -/
def clashing (wanted : List String) (g : StateGroup) : List String :=
  g.states.filter (· ∈ wanted)

/-- The first group with two places for wanted states. -/
def contradiction? (groups : GroupMap) (wanted : List String) : Option StateGroup :=
  groups.groups.find? fun g => 1 < (clashing wanted g).length

/-- The report about a group that would need several states at once. -/
def contradictionReport (permutation wanted : List String) (g : StateGroup) : Report :=
  Report.inconsistent .contradictoryCondition
    ("An AND relation cannot require two states of the same state group: group '" ++ g.name ++
      "' would need " ++ Text.commaList (clashing wanted g))
    { permutation := some permutation, states := clashing wanted g,
      extra := [("group", .text g.name)] }

/-- Some wanted state is in the permutation. -/
def disjunction : Relation where
  name := "OrRelation"
  holds _ permutation wanted := .ok (1 ≤ countMatches permutation wanted)

/-- Exactly one wanted state is in the permutation. -/
def exclusive : Relation where
  name := "XorRelation"
  holds _ permutation wanted := .ok (countMatches permutation wanted = 1)

/-- Every wanted state is in the permutation. -/
def conjunction : Relation where
  name := "AndRelation"
  holds groups permutation wanted :=
    match contradiction? groups wanted with
    | some g => .error (.report (contradictionReport permutation wanted g))
    | none => .ok (wanted.all (· ∈ permutation))

/-- The relation as it is shown in messages. -/
def display (r : Relation) : String := r.name ++ "()"

end Relation

/-! ### Naming a relation -/

/-- The built-in relations. -/
inductive RelationKind where
  | and
  | or
  | xor
deriving DecidableEq

namespace RelationKind

/-- The identifier of a kind. -/
def key : RelationKind → String
  | .and => "and"
  | .or => "or"
  | .xor => "xor"

/-- The kind with an identifier. -/
def ofKey? (s : String) : Option RelationKind :=
  if s = "and" then some .and else if s = "or" then some .or else if s = "xor" then some .xor
  else none

/-- The relation of a kind. -/
def relation : RelationKind → Relation
  | .and => Relation.conjunction
  | .or => Relation.disjunction
  | .xor => Relation.exclusive

theorem ofKey?_key (k : RelationKind) : ofKey? k.key = some k := by cases k <;> decide

theorem key_of_ofKey? {s : String} {k : RelationKind} (h : ofKey? s = some k) : k.key = s := by
  unfold ofKey? at h
  split at h
  · next e => cases h; exact e.symm
  split at h
  · next e => cases h; exact e.symm
  split at h
  · next e => cases h; exact e.symm
  · cases h

end RelationKind

/-- The name of a relation in a condition. -/
inductive RelationRef where
  | builtin (kind : RelationKind)
  | named (text : String) (other : RelationKind.ofKey? (Text.lower text) = none)
deriving DecidableEq

namespace RelationRef

/-- The relation that a text names. -/
def ofText (text : String) : RelationRef :=
  match h : RelationKind.ofKey? (Text.lower text) with
  | some kind => .builtin kind
  | none => .named text h

/-- The identifier, in its own spelling. -/
def identifier : RelationRef → String
  | .builtin kind => kind.key
  | .named text _ => text

/-- The identifier under which the relation is looked up. -/
def key : RelationRef → String
  | .builtin kind => kind.key
  | .named text _ => Text.lower text

/-- The relation is named by its kind. -/
def isBuiltin : RelationRef → Bool
  | .builtin _ => true
  | .named _ _ => false

/-- **A text is looked up by its lower case.** -/
theorem key_ofText (text : String) : (ofText text).key = Text.lower text := by
  unfold ofText
  split
  · next k h => exact RelationKind.key_of_ofKey? h
  · rfl

end RelationRef
end Typestate
