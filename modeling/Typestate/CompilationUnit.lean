import Typestate.Wrapper

/-! # Compilation units

The wrappers generated for one entity. Wrappers are found by type name, so a unit cannot hold two
of one name.

* `CompilationUnit.make`: the unit of some wrappers, or the report about the names that several
  permutations share.
* `get`, `wrapperFor`, `successorOf`: the wrapper of a name, of a permutation, and the one that a
  transition member returns.
* `unresolved`: the names of successor wrappers that are not in the unit. -/

namespace Typestate

/-- All wrappers of an entity. -/
structure CompilationUnit where
  entity : Entity
  wrappers : List Wrapper
  suffix : String
  distinctNames : (wrappers.map (·.typeName)).Nodup

namespace CompilationUnit

/-- The permutations under each name that several wrappers have. -/
def collisions (wrappers : List Wrapper) : List (String × List Permutation) :=
  (Names.collect (wrappers.map fun w => (w.typeName, w.permutation))).filter fun entry =>
    1 < entry.2.length

/-- The report about shared names. -/
def collisionReport (entity : Entity) (table : List (String × List Permutation)) : Report :=
  Draft.report
    { family := .inconsistency
      message := some ("Different permutations produce the same wrapper name. Collisions: " ++
        String.intercalate "; " (table.map fun entry =>
          entry.1 ++ ": " ++ Text.commaList (entry.2.map Permutation.display)))
      code := some .nameCollision
      site := { entity := some entity.name }
      extra := [("permutations", Data.ofPairs (table.map fun entry =>
        (entry.1, .list (entry.2.map fun p => Data.texts p.states))))] }

/-- The unit of some wrappers. -/
def make (entity : Entity) (wrappers : List Wrapper) (suffix : String) :
    Except Failure CompilationUnit :=
  if h : (wrappers.map (·.typeName)).Nodup then .ok ⟨entity, wrappers, suffix, h⟩
  else .error (.report (collisionReport entity (collisions wrappers)))

variable (u : CompilationUnit)

/-- The number of wrappers. -/
def size : Nat := u.wrappers.length

/-- The names of the wrappers. -/
def typeNames : List String := u.wrappers.map (·.typeName)

/-- The wrapper of a name. -/
def find? (typeName : String) : Option Wrapper := u.wrappers.find? fun w => w.typeName = typeName

/-- There is a wrapper of that name. -/
def contains (typeName : String) : Bool := (u.find? typeName).isSome

/-- The wrapper of a name, which has to be there. -/
def get (typeName : String) : Except Failure Wrapper :=
  match u.find? typeName with
  | some w => .ok w
  | none => .error (.missing (.wrapper typeName))

/-- The wrapper of a permutation. -/
def wrapperFor (p : Permutation) : Except Failure Wrapper := u.get (p.typeName u.suffix)

/-- The wrapper that a member returns. -/
def successorOf (m : Member) : Except Failure Wrapper :=
  match m.result with
  | .value _ => .error (.refused (.plainResult m.name))
  | .transition successor _ _ => u.wrapperFor successor

/-- The successor permutations of the members of a wrapper. -/
def successors (w : Wrapper) : List Permutation :=
  w.members.filterMap fun m =>
    match m.result with
    | .value _ => none
    | .transition successor _ _ => some successor

/-- The names of successor wrappers that are not in the unit, each once. -/
def unresolved : List String :=
  Names.distinct (((u.wrappers.flatMap successors).map (·.typeName u.suffix)).filter fun name =>
    !u.contains name)

/-- The unit as data. -/
def toData : Data :=
  Data.ofPairs
    [("entity", .text u.entity.name),
     ("namespace", match u.entity.module with | none => .null | some name => .text name),
     ("type_parameters", Data.texts u.entity.typeParameters),
     ("groups", Data.ofPairs (u.entity.groups.map fun g => (g.name, Data.texts g.states))),
     ("wrappers", .list (u.wrappers.map Wrapper.toData))]

/-- The unit as it is shown in messages. -/
def display : String :=
  "CompilationUnit(" ++ Text.quoted u.entity.name ++ ", wrappers=" ++ toString u.size ++ ")"

/-- **Wrappers with different names make a unit.** -/
theorem make_eq_ok {entity : Entity} {wrappers : List Wrapper} {suffix : String}
    (h : (wrappers.map (·.typeName)).Nodup) :
    make entity wrappers suffix = .ok ⟨entity, wrappers, suffix, h⟩ := by
  simp [make, h]

theorem contains_eq (typeName : String) :
    u.contains typeName = decide (typeName ∈ u.typeNames) := by
  rw [Bool.eq_iff_iff]
  simp [contains, find?, typeNames]

end CompilationUnit
end Typestate
